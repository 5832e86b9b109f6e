import HeatingBus.Registry.Basic

/-!
# Slots

What the operations of the registry read and write: the slot of one address, and in it one message
of its device. A message of a device is mentioned when the engine asks for it before it has anything
to enter; it is kept from then on, empty if it was not kept before.
-/

namespace HeatingBus

namespace Device

section
variable {device : Device} {identification other : UInt8} {cached : CachedMessage}

theorem cached?_eq_getElem (bound : identification.toNat < 256) :
    device.cached? identification = device.messages[identification.toNat] := rfl

theorem cached?_store_self :
    (device.store identification cached).cached? identification = some cached := by
  rw [cached?_eq_getElem identification.toNat_lt, store]
  exact Vector.getElem_set_self _

theorem cached?_store_of_ne (different : other ≠ identification) :
    (device.store identification cached).cached? other = device.cached? other := by
  have apart : identification.toNat ≠ other.toNat := fun same =>
    different (UInt8.toNat_inj.mp same.symm)
  rw [cached?_eq_getElem other.toNat_lt, cached?_eq_getElem other.toNat_lt, store]
  exact Vector.getElem_set_ne identification.toNat_lt other.toNat_lt apart

theorem store_cached (kept : device.cached? identification = some cached) :
    device.store identification cached = device := by
  have bound := identification.toNat_lt
  rw [cached?_eq_getElem bound] at kept
  rw [store, ← kept, Vector.set_getElem_self]

end

end Device

namespace Registry

section
variable {registry : Registry} {address other : UInt8} {state : AddressState}

theorem slot_eq_getElem : registry.slot address = registry.slots[(slotOf address).val] := rfl

theorem slot_setState_self :
    (registry.setState address state).slot address = { registry.slot address with state } := by
  rw [slot_eq_getElem, setState]
  exact Vector.getElem_set_self _

theorem slot_setState_of_ne (different : slotOf other ≠ slotOf address) :
    (registry.setState address state).slot other = registry.slot other := by
  have apart : (slotOf address).val ≠ (slotOf other).val := fun same =>
    different (Fin.ext same.symm)
  rw [slot_eq_getElem, slot_eq_getElem, setState]
  exact Vector.getElem_set_ne (slotOf address).isLt (slotOf other).isLt apart

theorem slot_congr (same : slotOf other = slotOf address) :
    registry.slot other = registry.slot address := by
  rw [slot, same, slot]

theorem state_congr (same : slotOf other = slotOf address) :
    registry.state other = registry.state address := by
  rw [Registry.state, slot_congr same, Registry.state]

theorem setState_state (same : registry.state address = state) :
    registry.setState address state = registry := by
  have kept : { registry.slot address with state } = registry.slot address := by
    rw [← same, Registry.state]
  have entered : registry.slots.set (slotOf address).val { registry.slot address with state }
      (slotOf address).isLt = registry.slots := by
    rw [kept, slot_eq_getElem, Vector.set_getElem_self]
  exact congrArg (fun slots => { registry with slots }) entered

end

/-! ## The device of an address -/

section
variable {registry : Registry} {address other identification : UInt8} {device : Device}
  {cached : CachedMessage}

theorem device?_eq_some_iff :
    registry.device? address = some device ↔ registry.state address = .identified device := by
  rw [device?]
  cases registry.state address <;> simp [AddressState.device?]

theorem state_store_self :
    (registry.store address device identification cached).state address =
      .identified (device.store identification cached) := by
  rw [state, store, slot_setState_self]

theorem slot_store_of_ne (different : slotOf other ≠ slotOf address) :
    (registry.store address device identification cached).slot other = registry.slot other :=
  slot_setState_of_ne different

theorem bitmap_store :
    (registry.store address device identification cached).bitmap = registry.bitmap := rfl

/-- A message that is put back where it was found changes nothing. -/
theorem store_cached (identified : registry.device? address = some device)
    (kept : device.cached? identification = some cached) :
    registry.store address device identification cached = registry := by
  rw [store, device.store_cached kept]
  exact setState_state (device?_eq_some_iff.mp identified)

end

/-! ## Mentioned messages -/

def mention (registry : Registry) (address : UInt8) (layout : MessageLayout) : Registry :=
  match registry.device? address with
  | none => registry
  | some device =>
    registry.store address device layout.identification (device.cachedOrNew layout)

/-- Whether the device of an address is known, but not yet a message of it. -/
def IsUnheard (registry : Registry) (address identification : UInt8) : Prop :=
  ∃ device, registry.device? address = some device ∧ device.cached? identification = none

section
variable {registry : Registry} {address identification : UInt8} {device : Device}
  {layout : MessageLayout}

theorem mention_of_device (identified : registry.device? address = some device) :
    registry.mention address layout =
      registry.store address device layout.identification (device.cachedOrNew layout) := by
  rw [mention, identified]

/-- A mention leaves the registry alone unless the message is one that is not kept yet. -/
theorem mention_of_not_isUnheard
    (heard : ¬ registry.IsUnheard address layout.identification) :
    registry.mention address layout = registry := by
  cases identified : registry.device? address with
  | none => rw [mention, identified]
  | some device =>
    cases kept : device.cached? layout.identification with
    | none => exact absurd ⟨device, identified, kept⟩ heard
    | some cached =>
      rw [mention_of_device identified, Device.cachedOrNew, kept]
      exact store_cached identified kept

/-- A message that was not kept is kept from its mention on, and it is empty. -/
theorem mention_of_isUnheard (unheard : registry.IsUnheard address layout.identification) :
    (registry.mention address layout).message? address layout.identification =
      some (.new layout) := by
  obtain ⟨device, identified, unkept⟩ := unheard
  rw [mention_of_device identified, Device.cachedOrNew, unkept, message?, device?,
    state_store_self]
  simp [AddressState.device?, Device.cached?_store_self, CachedMessage.ofMessage]

theorem message?_of_isUnheard (unheard : registry.IsUnheard address identification) :
    registry.message? address identification = none := by
  obtain ⟨device, identified, unkept⟩ := unheard
  simp [message?, identified, unkept]

/-- Exactly the mention of a message that is not kept yet changes the registry. -/
theorem mention_eq_self_iff :
    registry.mention address layout = registry ↔
      ¬ registry.IsUnheard address layout.identification := by
  refine ⟨fun same unheard => ?_, mention_of_not_isUnheard⟩
  have entered := mention_of_isUnheard unheard
  rw [same, message?_of_isUnheard unheard] at entered
  cases entered

end

/-! ## Identification -/

def newcomer (address : UInt8) (product : Product) (version : Message) : Device :=
  (Device.new (withoutReadFlag address) product).store version.identification
    ⟨version, EventOrder.fresh.draw⟩

section
variable {registry : Registry} {address other : UInt8} {product : Product} {version : Message}

theorem identify_of_not_waiting (settled : registry.state address ≠ .onlineUnidentified) :
    (registry.identify address product version).registry = registry := by
  unfold identify
  split
  · rename_i waiting
    exact absurd waiting settled
  · rfl

theorem found_identify_of_not_waiting (settled : registry.state address ≠ .onlineUnidentified) :
    (registry.identify address product version).found = none := by
  unfold identify
  split
  · rename_i waiting
    exact absurd waiting settled
  · rfl

theorem bitmap_identify :
    (registry.identify address product version).registry.bitmap = registry.bitmap := by
  unfold identify
  split <;> rfl

theorem slot_identify_self (waiting : registry.state address = .onlineUnidentified) :
    (registry.identify address product version).registry.slot address =
      ⟨.identified (newcomer address product version), (registry.slot address).tenure + 1⟩ := by
  simp only [identify, waiting]
  rw [slot_eq_getElem]
  exact Vector.getElem_set_self _

theorem slot_identify_of_ne (different : slotOf other ≠ slotOf address) :
    (registry.identify address product version).registry.slot other = registry.slot other := by
  have apart : (slotOf address).val ≠ (slotOf other).val := fun same =>
    different (Fin.ext same.symm)
  unfold identify
  split
  · rw [slot_eq_getElem, slot_eq_getElem]
    exact Vector.getElem_set_ne (slotOf address).isLt (slotOf other).isLt apart
  · rfl

end

end Registry

end HeatingBus
