import HeatingBus.Proofs.Message.History
import HeatingBus.Proofs.OnlineBitmap.Membership
import HeatingBus.Proofs.Registry.Slots

/-!
# Presence

The registry keeps two records of who is present: the bitmap, and the table of addresses. They agree
in every registry that arises from the empty one, since only a broadcast of the bitmap moves an
address into or out of the state of being offline, and it moves exactly those whose bits it changes.
-/

namespace HeatingBus

/-! ## Addresses -/

theorem val_slotOf (address : UInt8) : (slotOf address).val = address.toNat % 128 := by
  show (address &&& 0x7F).toNat = _
  rw [UInt8.toNat_and]
  exact Nat.and_two_pow_sub_one_eq_mod address.toNat 7

theorem val_slotOf_of_lt {address : UInt8} (bound : address < 128) :
    (slotOf address).val = address.toNat := by
  rw [val_slotOf]
  exact Nat.mod_eq_of_lt (UInt8.lt_iff_toNat_lt.mp bound)

theorem withoutReadFlag_eq_of_lt {address : UInt8} (bound : address < 128) :
    withoutReadFlag address = address :=
  UInt8.toNat_inj.mp (val_slotOf_of_lt bound)

theorem slotOf_eq_iff {address other : UInt8} :
    slotOf other = slotOf address ↔ withoutReadFlag other = withoutReadFlag address := by
  rw [Fin.ext_iff, ← UInt8.toNat_inj]
  rfl

@[simp] theorem withoutReadFlag_withoutReadFlag (address : UInt8) :
    withoutReadFlag (withoutReadFlag address) = withoutReadFlag address := by
  rw [withoutReadFlag, withoutReadFlag, UInt8.and_assoc]
  rfl

theorem slotOf_eq_slotOf_withoutReadFlag_iff {address other : UInt8} :
    slotOf other = slotOf (withoutReadFlag address) ↔
      withoutReadFlag other = withoutReadFlag address := by
  rw [slotOf_eq_iff, withoutReadFlag_withoutReadFlag]

theorem slotOf_withoutReadFlag (address : UInt8) :
    slotOf (withoutReadFlag address) = slotOf address :=
  (slotOf_eq_slotOf_withoutReadFlag_iff.mpr rfl).symm

theorem ofNat_slotOf (address : UInt8) :
    UInt8.ofNat (slotOf address).val = withoutReadFlag address :=
  UInt8.ofNat_toNat

theorem AddressState.arrive_ne_offline (state : AddressState) : state.arrive ≠ .offline := by
  cases state <;> simp [arrive]

theorem AddressState.device?_arrive (state : AddressState) :
    state.arrive.device? = state.device? := by
  cases state <;> rfl

namespace Registry

/-! ## Broadcasts of the bitmap -/

section
variable {registry : Registry} {address : UInt8} {update : Bytes} {offset : Nat}

theorem slot_applyOnlineUpdate :
    (registry.applyOnlineUpdate update offset).registry.slot address =
      slotAfter (registry.bitmap.diff (registry.bitmap.withUpdate update offset))
        (withoutReadFlag address) (registry.slot address) := by
  rw [slot_eq_getElem, slot_eq_getElem, applyOnlineUpdate, ← ofNat_slotOf]
  exact Vector.getElem_mapFinIdx (slotOf address).isLt

theorem bitmap_applyOnlineUpdate :
    (registry.applyOnlineUpdate update offset).registry.bitmap =
      registry.bitmap.withUpdate update offset := rfl

end

/-- What is known of an address after the bitmap changed, by its bit before and after. -/
theorem slotAfter_diff (bitmap newer : OnlineBitmap) (address : BusAddress) (slot : Slot) :
    slotAfter (bitmap.diff newer) address slot =
      match bitmap.isOnline address, newer.isOnline address with
      | false, true => { slot with state := slot.state.arrive }
      | true, false => { slot with state := .offline }
      | _, _ => slot := by
  rw [slotAfter]
  simp only [OnlineBitmap.mem_cameOnline_iff, OnlineBitmap.mem_wentOffline_iff]
  cases bitmap.isOnline address <;> cases newer.isOnline address <;> simp

/-! ## Agreement of the two records -/

/-- What a registry says of presence: an address is present in the table exactly if it is present in
the bitmap, and a device knows its own address. -/
structure IsConsistent (registry : Registry) : Prop where
  present_iff : ∀ address : UInt8, address < 128 →
    (registry.state address ≠ .offline ↔ registry.bitmap.isOnline address = true)
  own_address : ∀ (address : UInt8) (device : Device), registry.device? address = some device →
    device.address = withoutReadFlag address

theorem isConsistent_empty : empty.IsConsistent := by
  have offline : ∀ address, empty.state address = .offline := by
    intro address
    rw [state, slot_eq_getElem, empty, Vector.getElem_replicate]
  refine ⟨fun address _ => ?_, fun address device identified => ?_⟩
  · rw [offline]
    refine iff_of_false (fun present => present rfl) ?_
    intro online
    obtain ⟨place, placed, bit, bound, own⟩ :=
      OnlineBitmap.exists_place (OnlineBitmap.hasBit_of_isOnline online)
    rw [OnlineBitmap.isOnline_eq_testBit placed bound own, empty, OnlineBitmap.empty,
      Vector.getElem_replicate] at online
    simp at online
  · rw [device?, offline] at identified
    cases identified

section
variable {registry after : Registry} {address : UInt8} {device : Device}

/-- A device may be entered, or altered, at an address that is present. -/
theorem IsConsistent.of_entered (consistent : registry.IsConsistent)
    (bitmap : after.bitmap = registry.bitmap) (present : registry.state address ≠ .offline)
    (entered : after.state address = .identified device)
    (own : device.address = withoutReadFlag address)
    (others : ∀ other, slotOf other ≠ slotOf address → after.slot other = registry.slot other) :
    after.IsConsistent := by
  -- Two addresses with one slot differ in the read flag at most.
  refine ⟨fun other bound => ?_, fun other found identified => ?_⟩
  · rw [bitmap, ← consistent.present_iff other bound]
    by_cases same : slotOf other = slotOf address
    · rw [state_congr same, entered, state_congr same]
      exact iff_of_true (by simp) present
    · rw [state, others other same, ← state]
  · by_cases same : slotOf other = slotOf address
    · rw [device?, state_congr same, entered] at identified
      cases identified
      rw [own, slotOf_eq_iff.mp same]
    · rw [device?, state, others other same, ← state, ← device?] at identified
      exact consistent.own_address other found identified

theorem IsConsistent.store (consistent : registry.IsConsistent)
    (identified : registry.device? address = some device) (identification : UInt8)
    (cached : CachedMessage) :
    (registry.store address device identification cached).IsConsistent := by
  have known := device?_eq_some_iff.mp identified
  refine consistent.of_entered bitmap_store ?_ state_store_self
    (consistent.own_address address device identified) (fun other => slot_store_of_ne)
  simp [known]

theorem IsConsistent.mention (consistent : registry.IsConsistent) (address : UInt8)
    (layout : MessageLayout) : (registry.mention address layout).IsConsistent := by
  unfold Registry.mention
  split
  · exact consistent
  · rename_i device identified
    exact consistent.store identified _ _

theorem IsConsistent.applyOnlineUpdate (consistent : registry.IsConsistent) (update : Bytes)
    (offset : Nat) : (registry.applyOnlineUpdate update offset).registry.IsConsistent := by
  refine ⟨fun address bound => ?_, fun address device identified => ?_⟩
  · have before := consistent.present_iff address bound
    rw [bitmap_applyOnlineUpdate, state, slot_applyOnlineUpdate, slotAfter_diff,
      withoutReadFlag_eq_of_lt bound]
    cases old : registry.bitmap.isOnline address <;>
      cases new : (registry.bitmap.withUpdate update offset).isOnline address
    · rwa [old] at before
    · exact iff_of_true (AddressState.arrive_ne_offline _) rfl
    · exact iff_of_false (fun present => present rfl) Bool.false_ne_true
    · rwa [old] at before
  · apply consistent.own_address address
    rw [device?, state, slot_applyOnlineUpdate, slotAfter_diff] at identified
    -- Only what an address was before can make it an identified one after the broadcast.
    split at identified
    · rwa [AddressState.device?_arrive] at identified
    · cases identified
    · exact identified

/-- An attempt to identify a device is in vain, or enters the device at an address that waits for
it. -/
theorem IsConsistent.identify (consistent : registry.IsConsistent) (address : UInt8)
    (product : Product) (version : Message) :
    (registry.identify address product version).registry.IsConsistent := by
  by_cases waiting : registry.state address = .onlineUnidentified
  · have entered : (registry.identify address product version).registry.state address =
        .identified (newcomer address product version) := by
      rw [state, slot_identify_self waiting]
    refine consistent.of_entered bitmap_identify ?_ entered rfl (fun other => slot_identify_of_ne)
    simp [waiting]
  · rw [identify_of_not_waiting waiting]
    exact consistent

theorem IsConsistent.dropRetired (consistent : registry.IsConsistent) (tenure : MessageTenure)
    (place : Nat) : (registry.dropRetired tenure place).IsConsistent :=
  ⟨consistent.present_iff, consistent.own_address⟩

theorem IsConsistent.dropTicket (consistent : registry.IsConsistent) (ticket : EventTicket) :
    (registry.dropTicket ticket).IsConsistent := by
  unfold Registry.dropTicket
  simp only
  split
  · rename_i device identified
    split
    · split
      · exact consistent.store identified _ _
      · exact consistent
    · exact consistent.dropRetired _ _
  · exact consistent.dropRetired _ _

theorem IsConsistent.drawTicket {identification : UInt8} {ticket : EventTicket}
    (consistent : registry.IsConsistent)
    (drawn : registry.drawTicket? address identification = some (ticket, after)) :
    after.IsConsistent := by
  simp only [drawTicket?, Option.bind_eq_bind, Option.bind_eq_some_iff, Option.pure_def,
    Option.some.injEq, Prod.mk.injEq] at drawn
  obtain ⟨device, identified, cached, kept, _, rfl⟩ := drawn
  exact consistent.store identified _ _

/-- A device that stays in the bitmap keeps all that is known of it. -/
theorem IsConsistent.slot_of_online (consistent : registry.IsConsistent) {update : Bytes}
    {offset : Nat} (bound : address < 128) (identified : registry.device? address = some device)
    (online : (registry.bitmap.withUpdate update offset).isOnline address = true) :
    (registry.applyOnlineUpdate update offset).registry.slot address = registry.slot address := by
  have known := device?_eq_some_iff.mp identified
  have present : registry.bitmap.isOnline address = true := by
    rw [← consistent.present_iff address bound]
    simp [known]
  rw [slot_applyOnlineUpdate, slotAfter_diff, withoutReadFlag_eq_of_lt bound, present, online]

/-- An address that is not in the bitmap is forgotten. -/
theorem IsConsistent.state_of_offline (consistent : registry.IsConsistent) {update : Bytes}
    {offset : Nat} (bound : address < 128)
    (offline : (registry.bitmap.withUpdate update offset).isOnline address = false) :
    (registry.applyOnlineUpdate update offset).registry.state address = .offline := by
  by_contra present
  have online := ((consistent.applyOnlineUpdate update offset).present_iff address bound).mp present
  rw [bitmap_applyOnlineUpdate, offline] at online
  cases online

theorem message?_of_offline {identification : UInt8} (offline : registry.state address = .offline) :
    registry.message? address identification = none := by
  rw [message?, device?, offline]
  rfl

end

/-! ## Direct uses -/

def absorb (registry : Registry) (address : UInt8) (layout : MessageLayout) (window : Window) :
    Registry :=
  match registry.device? address with
  | none => registry
  | some device =>
    let cached := device.cachedOrNew layout
    registry.store address device layout.identification
      { cached with message := cached.message.absorb window }

inductive Action where
  | applyOnlineUpdate (update : Bytes) (offset : Nat)
  | identify (address : UInt8) (product : Product) (version : Message)
  | mention (address : UInt8) (layout : MessageLayout)
  | absorb (address : UInt8) (layout : MessageLayout) (window : Window)
  | drawTicket (address identification : UInt8)
  | dropTicket (ticket : EventTicket)

def act (registry : Registry) : Action → Registry
  | .applyOnlineUpdate update offset => (registry.applyOnlineUpdate update offset).registry
  | .identify address product version => (registry.identify address product version).registry
  | .mention address layout => registry.mention address layout
  | .absorb address layout window => registry.absorb address layout window
  | .drawTicket address identification =>
    match registry.drawTicket? address identification with
    | none => registry
    | some (_, after) => after
  | .dropTicket ticket => registry.dropTicket ticket

theorem IsConsistent.act {registry : Registry} (consistent : registry.IsConsistent)
    (action : Action) : (registry.act action).IsConsistent := by
  cases action with
  | applyOnlineUpdate update offset => exact consistent.applyOnlineUpdate update offset
  | identify address product version => exact consistent.identify address product version
  | mention address layout => exact consistent.mention address layout
  | absorb address layout window =>
    show (registry.absorb address layout window).IsConsistent
    unfold Registry.absorb
    split
    · exact consistent
    · rename_i device identified
      exact consistent.store identified _ _
  | drawTicket address identification =>
    rw [Registry.act]
    split
    · exact consistent
    · rename_i drawn
      exact consistent.drawTicket drawn
  | dropTicket ticket => exact consistent.dropTicket ticket

end Registry

end HeatingBus
