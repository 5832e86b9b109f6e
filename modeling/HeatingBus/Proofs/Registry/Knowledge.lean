import HeatingBus.Proofs.Registry.Presence

/-!
# Knowledge

What applications can learn of an address: which device it is, and the messages of it that are kept.
The lemmas say what becomes of both under the operations of the registry. Tickets are no part of
what is known, so that two registries agree if they differ in the orders of events alone.
-/

namespace HeatingBus

theorem withoutReadFlag_lt (address : UInt8) : withoutReadFlag address < 128 :=
  UInt8.lt_iff_toNat_lt.mpr (slotOf address).isLt

namespace Registry

def recollect (registry : Registry) (address : UInt8) (layout : MessageLayout) : Message :=
  (registry.message? address layout.identification).getD (.new layout)

/-! ## Devices -/

section
variable {registry after : Registry} {address other identification code : UInt8} {device : Device}
  {cached : CachedMessage} {layout target : MessageLayout} {message : Message}

theorem device?_of_slot (same : after.slot other = registry.slot address) :
    after.device? other = registry.device? address := by
  rw [device?, state, same, device?, state]

theorem device?_congr (same : slotOf other = slotOf address) :
    registry.device? other = registry.device? address :=
  device?_of_slot (slot_congr same)

theorem deviceInfo?_of_device? (same : after.device? other = registry.device? address) :
    after.deviceInfo? other = registry.deviceInfo? address := by
  rw [deviceInfo?, same, deviceInfo?]

theorem message?_of_device? (same : after.device? other = registry.device? address) :
    after.message? other code = registry.message? address code := by
  rw [message?, same, message?]

/-- A known device is in the bitmap. -/
theorem IsConsistent.isOnline_of_device? (consistent : registry.IsConsistent)
    (bound : address < 128) (identified : registry.device? address = some device) :
    registry.bitmap.isOnline address = true := by
  rw [← consistent.present_iff address bound, device?_eq_some_iff.mp identified]
  simp

theorem isIdentified_eq_false_iff :
    registry.isIdentified address = false ↔ registry.device? address = none := by
  rw [isIdentified, Option.isSome_eq_false_iff, Option.isNone_iff_eq_none]

theorem isIdentified_iff_device?_ne_none :
    registry.isIdentified address = true ↔ registry.device? address ≠ none := by
  rw [isIdentified, Option.isSome_iff_ne_none]

theorem isIdentified_iff_exists_deviceInfo? :
    registry.isIdentified address = true ↔ ∃ info, registry.deviceInfo? address = some info := by
  rw [isIdentified, ← Option.isSome_map (f := Device.info), Option.isSome_iff_exists, deviceInfo?]

theorem message?_of_device (identified : registry.device? address = some device) :
    registry.message? address code = (device.cached? code).map CachedMessage.message := by
  rw [message?, identified]
  cases kept : device.cached? code <;> simp [kept]

theorem message?_of_unidentified (unidentified : registry.device? address = none) :
    registry.message? address code = none := by
  rw [message?, unidentified]
  rfl

theorem recollect_of_device (identified : registry.device? address = some device) :
    registry.recollect address layout = (device.cachedOrNew layout).message := by
  rw [recollect, message?_of_device identified, Device.cachedOrNew]
  cases device.cached? layout.identification <;> rfl

theorem recollect_of_unidentified (unidentified : registry.device? address = none) :
    registry.recollect address layout = .new layout := by
  rw [recollect, message?_of_unidentified unidentified, Option.getD_none]

theorem recollect_of_message?
    (kept : registry.message? address layout.identification = some message) :
    registry.recollect address layout = message := by
  rw [recollect, kept, Option.getD_some]

theorem recollect_congr (same : slotOf other = slotOf address) :
    registry.recollect other layout = registry.recollect address layout := by
  rw [recollect, recollect, message?_of_device? (device?_congr same)]

/-! ## Stored messages -/

theorem device?_store_self :
    (registry.store address device identification cached).device? address =
      some (device.store identification cached) := by
  rw [device?, state_store_self]
  rfl

theorem deviceInfo?_store (identified : registry.device? address = some device) :
    (registry.store address device identification cached).deviceInfo? other =
      registry.deviceInfo? other := by
  by_cases same : slotOf other = slotOf address
  · rw [deviceInfo?, deviceInfo?, device?_congr same, device?_congr same, device?_store_self,
      identified]
    rfl
  · exact deviceInfo?_of_device? (device?_of_slot (slot_store_of_ne same))

theorem message?_store_self (same : slotOf other = slotOf address) :
    (registry.store address device identification cached).message? other identification =
      some cached.message := by
  rw [message?_of_device? (device?_congr same), message?_of_device device?_store_self,
    Device.cached?_store_self, Option.map_some]

theorem message?_store_elsewhere (identified : registry.device? address = some device)
    (different : slotOf other = slotOf address → code ≠ identification) :
    (registry.store address device identification cached).message? other code =
      registry.message? other code := by
  by_cases same : slotOf other = slotOf address
  · rw [message?_of_device? (device?_congr same), message?_of_device device?_store_self,
      Device.cached?_store_of_ne (different same), message?_of_device? (device?_congr same),
      message?_of_device identified]
  · exact message?_of_device? (device?_of_slot (slot_store_of_ne same))

/-- A message that is stored with another order is no other message. -/
theorem message?_store_order (identified : registry.device? address = some device)
    (kept : device.cached? identification = some cached) (order : EventOrder) :
    (registry.store address device identification { cached with order }).message? other code =
      registry.message? other code := by
  by_cases own : slotOf other = slotOf address ∧ code = identification
  · obtain ⟨same, rfl⟩ := own
    rw [message?_store_self same, message?_of_device? (device?_congr same),
      message?_of_device identified, kept, Option.map_some]
  · exact message?_store_elsewhere identified fun same => not_and.mp own same

/-! ## Agreement -/

/-- Two registries agree if they differ in the orders of events alone. -/
structure Agrees (registry after : Registry) : Prop where
  bitmap : after.bitmap = registry.bitmap
  deviceInfo? : ∀ address, after.deviceInfo? address = registry.deviceInfo? address
  message? : ∀ address code, after.message? address code = registry.message? address code

theorem Agrees.refl (registry : Registry) : registry.Agrees registry :=
  ⟨rfl, fun _ => rfl, fun _ _ => rfl⟩

theorem Agrees.recollect (agrees : registry.Agrees after) :
    after.recollect address layout = registry.recollect address layout := by
  rw [Registry.recollect, agrees.message?, Registry.recollect]

theorem Agrees.device?_eq_none_iff (agrees : registry.Agrees after) :
    after.device? address = none ↔ registry.device? address = none := by
  have same := agrees.deviceInfo? address
  rw [Registry.deviceInfo?, Registry.deviceInfo?] at same
  rw [← Option.map_eq_none_iff (f := Device.info), same, Option.map_eq_none_iff]

theorem agrees_store (identified : registry.device? address = some device) {other : CachedMessage}
    (same : other.message = cached.message) :
    (registry.store address device identification cached).Agrees
      (registry.store address device identification other) := by
  refine ⟨rfl, fun place => ?_, fun place code => ?_⟩
  · rw [deviceInfo?_store identified, deviceInfo?_store identified]
  · by_cases own : slotOf place = slotOf address ∧ code = identification
    · obtain ⟨place, rfl⟩ := own
      rw [message?_store_self place, message?_store_self place, same]
    · rw [message?_store_elsewhere identified fun place => not_and.mp own place,
        message?_store_elsewhere identified fun place => not_and.mp own place]

theorem agrees_dropTicket (registry : Registry) (ticket : EventTicket) :
    registry.Agrees (registry.dropTicket ticket) := by
  unfold dropTicket
  simp only
  split
  · rename_i device identified
    split
    · split
      · rename_i cached kept
        exact ⟨rfl, fun _ => deviceInfo?_store identified,
          fun _ _ => message?_store_order identified kept _⟩
      · exact .refl registry
    · exact ⟨rfl, fun _ => rfl, fun _ _ => rfl⟩
  · exact ⟨rfl, fun _ => rfl, fun _ _ => rfl⟩

end

/-! ## Mentions and updates -/

section
variable {registry : Registry} {address other code : UInt8} {device : Device}
  {layout target : MessageLayout} {message : Message} {window : Window}

theorem deviceInfo?_mention :
    (registry.mention address layout).deviceInfo? other = registry.deviceInfo? other := by
  unfold mention
  split
  · rfl
  · rename_i device identified
    exact deviceInfo?_store identified

theorem message?_mention_elsewhere
    (different : slotOf other = slotOf address → code ≠ layout.identification) :
    (registry.mention address layout).message? other code = registry.message? other code := by
  unfold mention
  split
  · rfl
  · rename_i device identified
    exact message?_store_elsewhere identified different

/-- A message that is mentioned is kept from then on, as it was known before. -/
theorem message?_mention_self (identified : registry.device? address = some device)
    (same : slotOf other = slotOf address) :
    (registry.mention address layout).message? other layout.identification =
      some (registry.recollect address layout) := by
  rw [mention_of_device identified, message?_store_self same, recollect_of_device identified]

/-- A message that is kept already is none the wiser for being mentioned. -/
theorem message?_mention_of_some (kept : registry.message? other code = some message) :
    (registry.mention address layout).message? other code = some message := by
  by_cases own : slotOf other = slotOf address ∧ code = layout.identification
  · obtain ⟨same, rfl⟩ := own
    cases identified : registry.device? address with
    | none => rwa [mention, identified]
    | some device =>
      rw [message?_of_device? (device?_congr same)] at kept
      rw [message?_mention_self identified same, recollect_of_message? kept]
  · rwa [message?_mention_elsewhere fun same => not_and.mp own same]

/-- What is kept after a message was mentioned was kept before, or it is the message mentioned, and
empty. -/
theorem message?_of_mention
    (kept : (registry.mention address layout).message? other code = some message) :
    registry.message? other code = some message ∨
      code = layout.identification ∧ message = .new layout := by
  by_cases own : slotOf other = slotOf address ∧ code = layout.identification
  · obtain ⟨same, rfl⟩ := own
    cases before : registry.message? other layout.identification with
    | some known =>
      rw [message?_mention_of_some before] at kept
      exact .inl kept
    | none =>
      cases identified : registry.device? address with
      | none =>
        rw [mention, identified, before] at kept
        cases kept
      | some device =>
        rw [message?_mention_self identified same, recollect,
          ← message?_of_device? (device?_congr same), before] at kept
        cases kept
        exact .inr ⟨rfl, rfl⟩
  · rw [message?_mention_elsewhere fun same => not_and.mp own same] at kept
    exact .inl kept

theorem recollect_mention (only : target.identification = layout.identification → target = layout) :
    (registry.mention address layout).recollect other target = registry.recollect other target := by
  by_cases own : slotOf other = slotOf address ∧ target.identification = layout.identification
  · obtain ⟨same, code⟩ := own
    obtain rfl := only code
    cases identified : registry.device? address with
    | none => rw [mention, identified]
    | some device =>
      rw [recollect_of_message? (message?_mention_self identified same), recollect_congr same]
  · rw [recollect, message?_mention_elsewhere fun same => not_and.mp own same, recollect]

theorem absorb_of_device (identified : registry.device? address = some device) :
    registry.absorb address layout window =
      registry.store address device layout.identification
        { device.cachedOrNew layout with
          message := (device.cachedOrNew layout).message.absorb window } := by
  rw [absorb, identified]

theorem deviceInfo?_absorb :
    (registry.absorb address layout window).deviceInfo? other = registry.deviceInfo? other := by
  unfold absorb
  split
  · rfl
  · rename_i device identified
    exact deviceInfo?_store identified

theorem bitmap_absorb : (registry.absorb address layout window).bitmap = registry.bitmap := by
  unfold absorb
  split <;> rfl

theorem message?_absorb_self (identified : registry.device? address = some device)
    (same : slotOf other = slotOf address) :
    (registry.absorb address layout window).message? other layout.identification =
      some ((registry.recollect address layout).absorb window) := by
  rw [absorb_of_device identified, message?_store_self same, recollect_of_device identified]

theorem message?_absorb_elsewhere
    (different : slotOf other = slotOf address → code ≠ layout.identification) :
    (registry.absorb address layout window).message? other code =
      registry.message? other code := by
  unfold absorb
  split
  · rfl
  · rename_i device identified
    exact message?_store_elsewhere identified different

end

/-! ## Broadcasts and identification -/

section
variable {registry : Registry} {address other code : UInt8} {device : Device} {update : Bytes}
  {offset : Nat} {product : Product} {version message : Message}

/-- A device that is known after a broadcast was known before. -/
theorem device?_of_applyOnlineUpdate
    (identified : (registry.applyOnlineUpdate update offset).registry.device? address =
      some device) :
    registry.device? address = some device := by
  rw [device?, state, slot_applyOnlineUpdate, slotAfter_diff] at identified
  split at identified
  · rwa [AddressState.device?_arrive] at identified
  · cases identified
  · exact identified

theorem message?_of_applyOnlineUpdate
    (kept : (registry.applyOnlineUpdate update offset).registry.message? address code =
      some message) :
    registry.message? address code = some message := by
  cases identified : (registry.applyOnlineUpdate update offset).registry.device? address with
  | none =>
    rw [message?_of_unidentified identified] at kept
    cases kept
  | some device =>
    rw [message?_of_device identified] at kept
    rw [message?_of_device (device?_of_applyOnlineUpdate identified), kept]

theorem cached?_newcomer :
    (newcomer address product version).cached? code =
      if code = version.identification then some ⟨version, EventOrder.fresh.draw⟩ else none := by
  split
  · rename_i own
    rw [own]
    exact Device.cached?_store_self
  · rename_i different
    rw [newcomer, Device.cached?_store_of_ne different, Device.cached?_eq_getElem code.toNat_lt]
    exact Vector.getElem_replicate _

theorem device?_identify_self (waiting : registry.state address = .onlineUnidentified)
    (same : slotOf other = slotOf address) :
    (registry.identify address product version).registry.device? other =
      some (newcomer address product version) := by
  rw [device?_congr same, device?, state, slot_identify_self waiting]
  rfl

theorem deviceInfo?_identify_self (waiting : registry.state address = .onlineUnidentified)
    (same : slotOf other = slotOf address) :
    (registry.identify address product version).registry.deviceInfo? other =
      some (Device.new (withoutReadFlag address) product).info := by
  rw [deviceInfo?, device?_identify_self waiting same]
  rfl

theorem message?_identify_self (waiting : registry.state address = .onlineUnidentified)
    (same : slotOf other = slotOf address) :
    (registry.identify address product version).registry.message? other code =
      if code = version.identification then some version else none := by
  rw [message?_of_device (device?_identify_self waiting same), cached?_newcomer]
  split <;> rfl

theorem device?_identify_of_ne (different : slotOf other ≠ slotOf address) :
    (registry.identify address product version).registry.device? other =
      registry.device? other :=
  device?_of_slot (slot_identify_of_ne different)

end

end Registry

end HeatingBus
