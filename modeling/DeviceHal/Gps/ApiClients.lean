import DeviceHal.Gps.LocationApi

namespace DeviceHal.Gps.Api

open Lib

section Log

variable {client : LocationAPI} {kind : InterfaceKind} {callbacks : LocationCallbacks}
  {log : List ApiCall}

theorem callbacksOf_isSome_of_everNeeded (h : everNeeded client kind log = true) :
    (callbacksOf client log).isSome := by
  induction log with
  | nil => simp [everNeeded] at h
  | cons call log ih =>
    cases call with
    | createInstance c cb =>
      grind [everNeeded, callbacksOf]
    | updateCallbacks c cb =>
      grind [everNeeded, callbacksOf]
    | destroy c =>
      grind [everNeeded, callbacksOf]

theorem everNeeded_eq_false (h : callbacksOf client log = none) :
    everNeeded client kind log = false := by
  cases hn : everNeeded client kind log with
  | false => rfl
  | true =>
    have hsome := callbacksOf_isSome_of_everNeeded hn
    rw [h] at hsome
    simp at hsome

theorem everNeeded_of_needs (h : callbacksOf client log = some callbacks)
    (hneeds : callbacks.needs kind = true) : everNeeded client kind log = true := by
  induction log with
  | nil => simp [callbacksOf] at h
  | cons call log ih =>
    cases call with
    | createInstance c cb =>
      grind [everNeeded, callbacksOf]
    | updateCallbacks c cb =>
      simp only [everNeeded, callbacksOf] at h ⊢
      grind
    | destroy c =>
      grind [everNeeded, callbacksOf]

end Log

def InterfaceSlot.keeps (slot : InterfaceSlot) (client : LocationAPI) : Bool :=
  slot.interface.any fun interface => (interface.clients.find? client).isSome

/-- The interface is loaded only where its library loads, and then keeps the given clients. -/
structure SlotKeeps (loads : Bool) (slot : InterfaceSlot) (has : LocationAPI → Bool) : Prop where
  loaded : slot.interface.isSome = true → loads = true
  failed : slot.loadFailed = true → loads = false
  keeps : ∀ client, slot.keeps client = (loads && has client)

namespace SlotKeeps

variable {loads : Bool} {slot : InterfaceSlot} {has has' : LocationAPI → Bool}
  {client : LocationAPI} {callbacks : LocationCallbacks}

theorem congr (h : SlotKeeps loads slot has)
    (same : ∀ client, (loads && has client) = (loads && has' client)) :
    SlotKeeps loads slot has' :=
  ⟨h.loaded, h.failed, fun client => (h.keeps client).trans (same client)⟩

theorem load (h : SlotKeeps loads slot has) :
    SlotKeeps loads (slot.load loads) has ∧ (slot.load loads).interface.isSome = loads := by
  unfold InterfaceSlot.load
  split
  next hfirst =>
    obtain ⟨hnone, hfail⟩ : slot.interface = none ∧ slot.loadFailed = false := by
      simpa using hfirst
    have hno : ∀ c, slot.keeps c = false := fun c => by simp [InterfaceSlot.keeps, hnone]
    cases loads with
    | true =>
      refine ⟨⟨fun _ => rfl, fun hf => ?_, fun c => ?_⟩, rfl⟩
      · exact h.failed hf
      · rw [← h.keeps c, hno c]
        simp [InterfaceSlot.keeps, OrderedMap.find?, OrderedMap.empty]
    | false =>
      refine ⟨⟨fun hs => ?_, fun _ => rfl, fun c => ?_⟩, ?_⟩
      · simp [hnone] at hs
      · simp [InterfaceSlot.keeps, hnone]
      · simp [hnone]
  next hlater =>
    refine ⟨h, ?_⟩
    cases hi : slot.interface with
    | some interface => exact (h.loaded (by simp [hi])).symm
    | none =>
      have hfail : slot.loadFailed = true := by simpa [hi] using hlater
      exact (h.failed hfail).symm

theorem addClient (h : SlotKeeps loads slot has) {interface added : LocationInterface}
    (hi : slot.interface = some interface)
    (hadded : added.clients = interface.clients.insert client callbacks) :
    SlotKeeps loads { slot with interface := some added } fun c => c = client || has c := by
  have hloads : loads = true := h.loaded (by simp [hi])
  refine ⟨fun _ => hloads, h.failed, fun c => ?_⟩
  have hold : (interface.clients.find? c).isSome = has c := by
    simpa [InterfaceSlot.keeps, hi, hloads] using h.keeps c
  grind [InterfaceSlot.keeps, OrderedMap.find?_insert]

theorem removeClient (h : SlotKeeps loads slot has) :
    SlotKeeps loads { slot with interface := slot.interface.map (·.removeClient client) }
      fun c => has c && !decide (c = client) := by
  refine ⟨fun hs => h.loaded (by simpa using hs), h.failed, fun c => ?_⟩
  have hold := h.keeps c
  cases hi : slot.interface with
  | none =>
    grind [InterfaceSlot.keeps]
  | some interface =>
    have hloads : loads = true := h.loaded (by simp [hi])
    have hfind : (interface.clients.find? c).isSome = has c := by
      simpa [InterfaceSlot.keeps, hi, hloads] using hold
    grind [InterfaceSlot.keeps, LocationInterface.removeClient, OrderedMap.find?_erase]

end SlotKeeps

namespace LocationAPIData

variable {loads : InterfaceKind → Bool} {client : LocationAPI} {callbacks : LocationCallbacks}
  {gData : LocationAPIData} {has : InterfaceKind → LocationAPI → Bool}

/-- The interfaces that load keep the given clients. -/
def Keeps (loads : InterfaceKind → Bool) (gData : LocationAPIData)
    (has : InterfaceKind → LocationAPI → Bool) : Prop :=
  ∀ kind, SlotKeeps (loads kind) (gData.slots kind) (has kind)

variable {has' : InterfaceKind → LocationAPI → Bool}

theorem Keeps.congr (h : Keeps loads gData has)
    (same : ∀ kind client, has kind client = has' kind client) : Keeps loads gData has' :=
  fun kind => (h kind).congr fun client => by rw [same]

theorem Keeps.of_slots (h : Keeps loads gData has) {gData' : LocationAPIData}
    (hslots : gData'.slots = gData.slots) : Keeps loads gData' has := by
  intro kind
  rw [hslots]
  exact h kind

theorem Keeps.setSlot (h : Keeps loads gData has) {kind : InterfaceKind} {slot : InterfaceSlot}
    (hslot : SlotKeeps (loads kind) slot (has' kind))
    (others : ∀ k, k ≠ kind → has' k = has k) : Keeps loads (gData.setSlot kind slot) has' := by
  intro k
  by_cases hk : k = kind
  · subst hk
    simpa [LocationAPIData.setSlot] using hslot
  · simpa [LocationAPIData.setSlot, hk, others k hk] using h k

def withClient (callbacks : LocationCallbacks) (client : LocationAPI) (kind : InterfaceKind)
    (has : InterfaceKind → LocationAPI → Bool) (k : InterfaceKind) (c : LocationAPI) : Bool :=
  k = kind && callbacks.needs kind && c = client || has k c

/-- What a block that removes the client leaves. -/
def withoutClient (callbacks : LocationCallbacks) (client : LocationAPI) (kind : InterfaceKind)
    (has : InterfaceKind → LocationAPI → Bool) (k : InterfaceKind) (c : LocationAPI) : Bool :=
  has k c && !(k = kind && callbacks.needs kind && c = client)

theorem withClient_others {kind k : InterfaceKind} (hk : k ≠ kind) :
    withClient callbacks client kind has k = has k := by
  funext c
  simp [withClient, hk]

theorem withoutClient_others {kind k : InterfaceKind} (hk : k ≠ kind) :
    withoutClient callbacks client kind has k = has k := by
  funext c
  simp [withoutClient, hk]

variable (client callbacks) in
theorem Keeps.createBlock (h : Keeps loads gData has) (kind : InterfaceKind) (requested : Bool) :
    Keeps loads (gData.createBlock loads client callbacks kind requested).1
      (withClient callbacks client kind has) := by
  unfold LocationAPIData.createBlock
  by_cases hneeds : callbacks.needs kind = true
  · obtain ⟨hload, hsome⟩ := (h kind).load
    rw [if_pos hneeds]
    dsimp only
    split
    next hnone =>
      refine h.setSlot (hload.congr fun c => ?_) fun k hk => withClient_others hk
      grind
    next interface hi =>
      refine h.setSlot ?_ fun k hk => withClient_others hk
      have hclients : (if requested = true then interface.addClient client callbacks
          else (interface.addClient client callbacks).requestCapabilities client).clients =
            interface.clients.insert client callbacks := by
        split <;> rfl
      exact (hload.addClient hi hclients).congr fun c => by simp [withClient, hneeds]
  · rw [if_neg hneeds]
    exact h.congr fun k c => by simp [withClient, hneeds]

variable (client callbacks) in
theorem Keeps.updateBlock (h : Keeps loads gData has) (kind : InterfaceKind) :
    Keeps loads (gData.updateBlock loads client callbacks kind)
      (withClient callbacks client kind has) := by
  unfold LocationAPIData.updateBlock
  by_cases hneeds : callbacks.needs kind = true
  · obtain ⟨hload, hsome⟩ := (h kind).load
    rw [if_pos hneeds]
    refine h.setSlot ?_ fun k hk => withClient_others hk
    cases hi : ((gData.slots kind).load (loads kind)).interface with
    | none =>
      have hno : loads kind = false := by simpa [hi] using hsome.symm
      rw [Option.map_none, ← hi]
      exact hload.congr fun c => by simp [hno]
    | some interface =>
      have hclients : (interface.addClient client callbacks).clients =
          interface.clients.insert client callbacks := rfl
      have hadd := hload.addClient hi hclients
      exact hadd.congr fun c => by simp [withClient, hneeds]
  · rw [if_neg hneeds]
    exact h.congr fun k c => by simp [withClient, hneeds]

variable (client callbacks) in
theorem Keeps.removeBlock (h : Keeps loads gData has) (kind : InterfaceKind) :
    Keeps loads (gData.removeBlock client callbacks kind)
      (withoutClient callbacks client kind has) := by
  unfold LocationAPIData.removeBlock
  by_cases hneeds : callbacks.needs kind = true
  · rw [if_pos hneeds]
    refine h.setSlot ?_ fun k hk => withoutClient_others hk
    exact (h kind).removeClient.congr fun c => by simp [withoutClient, hneeds]
  · rw [if_neg hneeds]
    exact h.congr fun k c => by simp [withoutClient, hneeds]

theorem Keeps.createInstance (h : Keeps loads gData has) (hm : callbacks.mandatory = true) :
    Keeps loads (gData.createInstance loads client callbacks).1
      fun kind c => callbacks.needs kind && c = client || has kind c := by
  have hgnss := h.createBlock client callbacks .gnss false
  have hflp := hgnss.createBlock client callbacks .flp
    (gData.createBlock loads client callbacks .gnss false).2
  have hall := hflp.createBlock client callbacks .geofence
    (LocationAPIData.createBlock loads client callbacks .flp
      (gData.createBlock loads client callbacks .gnss false).1
      (gData.createBlock loads client callbacks .gnss false).2).2
  unfold LocationAPIData.createInstance
  rw [if_pos hm]
  refine (hall.of_slots ?_).congr fun kind c => ?_
  · rfl
  · cases kind <;> simp [withClient]

theorem Keeps.updateCallbacks (h : Keeps loads gData has) (hm : callbacks.mandatory = true) :
    Keeps loads (gData.updateCallbacks loads client callbacks)
      fun kind c => callbacks.needs kind && c = client || has kind c := by
  have hgnss := h.updateBlock client callbacks .gnss
  have hall := (hgnss.updateBlock client callbacks .flp).updateBlock client callbacks .geofence
  unfold LocationAPIData.updateCallbacks
  rw [if_pos hm]
  refine (hall.of_slots ?_).congr fun kind c => ?_
  · rfl
  · cases kind <;> simp [withClient]

theorem Keeps.destroy (h : Keeps loads gData has)
    (hc : gData.clientData.find? client = some callbacks) :
    Keeps loads (gData.destroy client)
      fun kind c => has kind c && !(callbacks.needs kind && c = client) := by
  have hgnss := h.removeBlock client callbacks .gnss
  have hall := (hgnss.removeBlock client callbacks .flp).removeBlock client callbacks .geofence
  unfold LocationAPIData.destroy
  rw [hc]
  refine (hall.of_slots ?_).congr fun kind c => ?_
  · rfl
  · cases kind <;> simp [withoutClient]

theorem clientData_createBlock (kind : InterfaceKind) (requested : Bool) :
    (gData.createBlock loads client callbacks kind requested).1.clientData =
      gData.clientData := by
  unfold LocationAPIData.createBlock
  split
  · dsimp only
    split <;> rfl
  · rfl

theorem clientData_updateBlock (kind : InterfaceKind) :
    (gData.updateBlock loads client callbacks kind).clientData = gData.clientData := by
  unfold LocationAPIData.updateBlock
  split <;> rfl

theorem clientData_removeBlock (kind : InterfaceKind) :
    (gData.removeBlock client callbacks kind).clientData = gData.clientData := by
  unfold LocationAPIData.removeBlock
  split <;> rfl

theorem clientData_createInstance (hm : callbacks.mandatory = true) :
    (gData.createInstance loads client callbacks).1.clientData =
      gData.clientData.insert client callbacks := by
  unfold LocationAPIData.createInstance
  rw [if_pos hm]
  simp only [LocationAPIData.saveCallbacks, clientData_createBlock]

theorem clientData_updateCallbacks (hm : callbacks.mandatory = true) :
    (gData.updateCallbacks loads client callbacks).clientData =
      gData.clientData.insert client callbacks := by
  unfold LocationAPIData.updateCallbacks
  rw [if_pos hm]
  simp only [LocationAPIData.saveCallbacks, clientData_updateBlock]

theorem clientData_destroy (hc : gData.clientData.find? client = some callbacks) :
    (gData.destroy client).clientData = gData.clientData.erase client := by
  unfold LocationAPIData.destroy
  rw [hc]
  simp only [clientData_removeBlock]

end LocationAPIData

namespace ApiSystem

variable {loads : InterfaceKind → Bool} {s t : ApiSystem} {call : ApiCall}

variable {client : LocationAPI}

theorem knows_iff {kind : InterfaceKind} :
    s.Knows kind client ↔ (s.gData.slots kind).keeps client = true := by
  simp [Knows, InterfaceSlot.keeps, Option.any_eq_true]

/-- The saved callbacks are the last ones, and the interfaces keep who has needed them. -/
structure Tracks (loads : InterfaceKind → Bool) (s : ApiSystem) : Prop where
  saved : ∀ client, s.gData.clientData.find? client = callbacksOf client s.log
  kept : s.gData.Keeps loads fun kind client => everNeeded client kind s.log

theorem Tracks.first : Tracks loads {} := by
  refine ⟨fun client => rfl, fun kind => ⟨fun h => ?_, fun h => ?_, fun client => ?_⟩⟩
  · simp at h
  · simp at h
  · simp [InterfaceSlot.keeps, everNeeded]

theorem Tracks.right (h : Tracks loads s) : RegistrationRight loads s := by
  refine ⟨fun kind client hk => ?_, fun kind client callbacks hc hneeds hloads => ?_⟩
  · have hkeeps := ((h.kept kind).keeps client).symm.trans (knows_iff.mp hk)
    exact callbacksOf_isSome_of_everNeeded (Bool.and_eq_true_iff.mp hkeeps).2
  · have hever : everNeeded client kind s.log = true := everNeeded_of_needs hc hneeds
    refine knows_iff.mpr (((h.kept kind).keeps client).trans ?_)
    simp [hloads, hever]

variable {callbacks : LocationCallbacks}

theorem Tracks.createInstance (h : Tracks loads s) (fresh : callbacksOf client s.log = none) :
    Tracks loads
      { gData := (s.gData.createInstance loads client callbacks).1
        log := .createInstance client callbacks :: s.log } := by
  by_cases hm : callbacks.mandatory = true
  · refine ⟨fun c => ?_, (h.kept.createInstance hm).congr fun kind c => ?_⟩
    · rw [LocationAPIData.clientData_createInstance hm, OrderedMap.find?_insert, h.saved c]
      simp [callbacksOf, hm, eq_comm]
    · by_cases hc : c = client
      · subst hc
        simp [everNeeded, hm, everNeeded_eq_false fresh]
      · simp [everNeeded, hm, hc, Ne.symm hc]
  · have hsame : (s.gData.createInstance loads client callbacks).1 = s.gData := by
      unfold LocationAPIData.createInstance
      rw [if_neg hm]
    rw [hsame]
    refine ⟨fun c => ?_, h.kept.congr fun kind c => ?_⟩
    · simpa [callbacksOf, hm] using h.saved c
    · simp [everNeeded, hm]

theorem Tracks.updateCallbacks (h : Tracks loads s) : Tracks loads
      { gData := s.gData.updateCallbacks loads client callbacks
        log := .updateCallbacks client callbacks :: s.log } := by
  by_cases hm : callbacks.mandatory = true
  · refine ⟨fun c => ?_, (h.kept.updateCallbacks hm).congr fun kind c => ?_⟩
    · rw [LocationAPIData.clientData_updateCallbacks hm, OrderedMap.find?_insert, h.saved c]
      simp [callbacksOf, hm, eq_comm]
    grind [everNeeded]
  · have hsame : s.gData.updateCallbacks loads client callbacks = s.gData := by
      unfold LocationAPIData.updateCallbacks
      rw [if_neg hm]
    rw [hsame]
    refine ⟨fun c => ?_, h.kept.congr fun kind c => ?_⟩
    · simpa [callbacksOf, hm] using h.saved c
    · simp [everNeeded, hm]

theorem Tracks.destroy_keeps (h : Tracks loads s) (hc : callbacksOf client s.log = some callbacks) :
    (s.gData.destroy client).Keeps loads fun kind c =>
      everNeeded c kind s.log && !(callbacks.needs kind && c = client) :=
  h.kept.destroy ((h.saved client).trans hc)

theorem Tracks.destroy (h : Tracks loads s)
    (hlives : (callbacksOf client s.log).isSome) (good : KeepsNeeds loads s (.destroy client)) :
    Tracks loads { gData := s.gData.destroy client, log := .destroy client :: s.log } := by
  obtain ⟨callbacks, hc⟩ := Option.isSome_iff_exists.mp hlives
  refine ⟨fun c => ?_, fun kind => (h.destroy_keeps hc kind).congr fun c => ?_⟩
  · rw [LocationAPIData.clientData_destroy ((h.saved client).trans hc), OrderedMap.find?_erase,
      h.saved c]
    simp [callbacksOf, eq_comm]
  · by_cases hcl : c = client
    · subst hcl
      cases hl : loads kind with
      | false => rfl
      | true =>
        cases he : everNeeded c kind s.log with
        | false => simp [everNeeded, he]
        | true =>
          have hneeds : callbacks.needs kind = true := by simpa [hc] using good kind hl he
          simp [everNeeded, hneeds]
    · simp [everNeeded, hcl, Ne.symm hcl]

theorem Tracks.step (h : Tracks loads s) (admits : s.Admits call)
    (good : KeepsNeeds loads s call) (hs : step loads s call = some t) : Tracks loads t := by
  cases Option.some.inj hs
  cases call with
  | createInstance client callbacks => exact h.createInstance admits
  | updateCallbacks client callbacks => exact h.updateCallbacks
  | destroy client => exact h.destroy admits good

theorem Tracks.broken (h : Tracks loads s) (admits : s.Admits call)
    (bad : ¬KeepsNeeds loads s call) :
    ∃ t, ApiSystem.step loads s call = some t ∧ ¬RegistrationRight loads t := by
  refine ⟨_, rfl, fun right => ?_⟩
  cases call with
  | createInstance client callbacks => exact bad trivial
  | updateCallbacks client callbacks => exact bad trivial
  | destroy client =>
    simp only [KeepsNeeds, not_forall] at bad
    obtain ⟨kind, hl, he, hall⟩ := bad
    obtain ⟨callbacks, hc⟩ := Option.isSome_iff_exists.mp admits
    have hneeds : callbacks.needs kind = false := by simpa [hc] using hall
    have hkeeps : ((s.gData.destroy client).slots kind).keeps client = true := by
      rw [(h.destroy_keeps hc kind).keeps client]
      simp [hl, he, hneeds]
    have hgone := right.existing kind client (knows_iff.mpr hkeeps)
    simp [callbacksOf] at hgone

/-- Only existing clients are registered, and wherever they are needed, exactly in the runs in which
no client goes after it has given up an interface that keeps it. -/
theorem registrationRight_iff_keepsNeeds (loads : InterfaceKind → Bool) (calls : List ApiCall)
    (admitted : OpsMeet (step loads) Admits {} calls) :
    Always (step loads) (RegistrationRight loads) {} calls ↔
      OpsMeet (step loads) (KeepsNeeds loads) {} calls := by
  refine always_iff_of_keeps (fun s h => h.right) ?_ ?_ Tracks.first admitted
  · intro s call t h admits good hs
    exact h.step admits good hs
  · intro s call h admits bad
    exact h.broken admits bad

/-- A client with the mandatory callbacks and the given others. -/
def optional (trackingCb geofenceBreachCb : Bool) : LocationCallbacks where
  capabilitiesCb := true
  responseCb := true
  collectiveResponseCb := true
  trackingCb := trackingCb
  batchingCb := false
  geofenceBreachCb := geofenceBreachCb
  geofenceStatusCb := false
  gnssNiCb := false
  gnssMeasurementsCb := false

theorem addsGeofences_right :
    Always (step fun _ => true) (RegistrationRight fun _ => true) {}
      [.createInstance 1 (optional true false), .updateCallbacks 1 (optional true true),
        .destroy 1] :=
  (registrationRight_iff_keepsNeeds (fun _ => true) _ (by decide)).mpr (by decide)

/-- A client that gives its geofence callbacks up and goes stays with the geofence interface. -/
theorem dropsGeofences_wrong :
    ¬∀ (loads : InterfaceKind → Bool) (calls : List ApiCall),
      OpsMeet (step loads) Admits {} calls →
        Always (step loads) (RegistrationRight loads) {} calls := by
  intro hall
  have always := hall (fun _ => true) [.createInstance 1 (optional true true),
    .updateCallbacks 1 (optional true false), .destroy 1] (by decide)
  have last := (always.last rfl).existing .geofence 1 (knows_iff.mpr (by decide))
  exact absurd last (by decide)

end ApiSystem

end DeviceHal.Gps.Api
