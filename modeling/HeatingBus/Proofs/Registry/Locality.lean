import HeatingBus.Proofs.Registry.Knowledge

/-!
# Changes of one slot

A registry with another slot of one address, and a device with another message of one code. Changes
in different places can be made in either order. Whatever becomes of an address but its presence is
such a change.
-/

namespace HeatingBus

namespace Device

def withCached (device : Device) (identification : UInt8) (entry : Option CachedMessage) : Device :=
  { device with
    messages := device.messages.set identification.toNat entry identification.toNat_lt }

section
variable {device : Device} {identification other : UInt8} {entry otherEntry : Option CachedMessage}

theorem withCached_cached? :
    device.withCached identification (device.cached? identification) = device := by
  rw [withCached, cached?_eq_getElem identification.toNat_lt, Vector.set_getElem_self]

theorem cached?_withCached_of_ne (different : other ≠ identification) :
    (device.withCached identification entry).cached? other = device.cached? other := by
  have apart : identification.toNat ≠ other.toNat := fun same =>
    different (UInt8.toNat_inj.mp same.symm)
  rw [cached?_eq_getElem other.toNat_lt, cached?_eq_getElem other.toNat_lt, withCached]
  exact Vector.getElem_set_ne identification.toNat_lt other.toNat_lt apart

theorem withCached_comm (different : other ≠ identification) :
    (device.withCached identification entry).withCached other otherEntry =
      (device.withCached other otherEntry).withCached identification entry := by
  have apart : identification.toNat ≠ other.toNat := fun same =>
    different (UInt8.toNat_inj.mp same.symm)
  exact congrArg (fun messages => { device with messages })
    (Vector.set_comm entry otherEntry apart)

end

end Device

namespace Registry

def withSlot (registry : Registry) (address : UInt8) (slot : Slot) : Registry :=
  { registry with
    slots := registry.slots.set (slotOf address).val slot (slotOf address).isLt }

section
variable {registry : Registry} {address other : UInt8} {slot otherSlot : Slot}
  {state otherState : AddressState} {product : Product} {version : Message}

theorem withSlot_slot : registry.withSlot address (registry.slot address) = registry := by
  rw [withSlot, slot_eq_getElem, Vector.set_getElem_self]

theorem slot_withSlot_of_ne (different : slotOf other ≠ slotOf address) :
    (registry.withSlot address slot).slot other = registry.slot other := by
  have apart : (slotOf address).val ≠ (slotOf other).val := fun same =>
    different (Fin.ext same.symm)
  rw [slot_eq_getElem, slot_eq_getElem, withSlot]
  exact Vector.getElem_set_ne (slotOf address).isLt (slotOf other).isLt apart

theorem withSlot_comm (different : slotOf other ≠ slotOf address) :
    (registry.withSlot address slot).withSlot other otherSlot =
      (registry.withSlot other otherSlot).withSlot address slot := by
  have apart : (slotOf address).val ≠ (slotOf other).val := fun same =>
    different (Fin.ext same.symm)
  exact congrArg (fun slots => { registry with slots }) (Vector.set_comm slot otherSlot apart)

theorem setState_eq_withSlot :
    registry.setState address state =
      registry.withSlot address ⟨state, (registry.slot address).tenure⟩ := rfl

theorem withSlot_withSlot :
    (registry.withSlot address slot).withSlot address otherSlot =
      registry.withSlot address otherSlot :=
  congrArg (fun slots => { registry with slots }) (Vector.set_set _ (slotOf address).isLt)

theorem setState_setState :
    (registry.setState address state).setState address otherState =
      registry.setState address otherState := by
  rw [setState_eq_withSlot, slot_setState_self]
  exact withSlot_withSlot

/-- The slot of a device that was identified and reported. -/
def settledSlot (address : UInt8) (product : Product) (version : Message) (tenure : Nat) :
    Slot where
  state := .identified ((newcomer address product version).store version.identification
    ⟨version, EventOrder.fresh.draw.drop EventOrder.fresh.next⟩)
  tenure := tenure

theorem withSlot_congr (same : slotOf other = slotOf address) :
    registry.withSlot other slot = registry.withSlot address slot := by
  simp only [withSlot, same]

/-- Once the ticket of its version message is dropped, a device that was identified is all that is
new. -/
theorem exists_ticket_of_identify (product : Product) (version : Message)
    (waiting : registry.state address = .onlineUnidentified) :
    ∃ ticket, (registry.identify address product version).found =
        some ((newcomer address product version).info, ticket) ∧
      (registry.identify address product version).registry.dropTicket ticket =
        registry.withSlot address
          (settledSlot address product version ((registry.slot address).tenure + 1)) := by
  have same : slotOf (withoutReadFlag address) = slotOf address := slotOf_withoutReadFlag address
  have entered : (registry.identify address product version).registry =
      registry.withSlot address ⟨.identified (newcomer address product version),
        (registry.slot address).tenure + 1⟩ := by
    simp only [identify, waiting]
    rfl
  have identified : (registry.identify address product version).registry.device?
      (withoutReadFlag address) = some (newcomer address product version) :=
    device?_identify_self waiting same
  have current : (registry.identify address product version).registry.slot address =
      ⟨.identified (newcomer address product version), (registry.slot address).tenure + 1⟩ :=
    slot_identify_self waiting
  have kept : (newcomer address product version).cached? version.identification =
      some ⟨version, EventOrder.fresh.draw⟩ := Device.cached?_store_self
  refine ⟨⟨⟨withoutReadFlag address, version.identification, (registry.slot address).tenure + 1⟩,
    EventOrder.fresh.next⟩, by simp only [identify, waiting]; rfl, ?_⟩
  -- The ticket is one of the tenure that has just begun, so that to drop it is not in vain.
  rw [← slot_congr same] at current
  simp only [dropTicket, identified, current, if_true, kept]
  rw [store, setState_eq_withSlot, current, entered, withSlot_congr same, withSlot_withSlot]
  rfl

end

end Registry

end HeatingBus
