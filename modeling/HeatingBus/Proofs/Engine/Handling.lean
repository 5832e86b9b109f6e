import HeatingBus.Proofs.Engine.Requests
import HeatingBus.Proofs.Message.History

/-!
# Handling of telegrams

The ways in which a telegram is handled, and what each of them makes of the registry. The guards of
a way say when it is the one that is taken. Only a telegram of an unknown message and one that does
not fit into its message fail.
-/

namespace HeatingBus

def Telegram.window (telegram : Telegram) : Window := ⟨telegram.payload, telegram.offset.toNat⟩

theorem MessageCatalog.identification_of_get? {catalog : MessageCatalog} {identification : UInt8}
    {layout : MessageLayout} (known : catalog.get? identification = some layout) :
    layout.identification = identification := by
  simpa using List.find?_some known

/-- What an attempt to identify a device may make of the registry: the device is entered, and the
ticket of its version message is dropped once the device has been reported. -/
def Registry.MayIdentify (registry : Registry) (source : BusAddress) (product : Product)
    (version : Message) (after : Registry) : Prop :=
  after = (registry.identify source product version).registry ∨
    ∃ ticket, after = (registry.identify source product version).registry.dropTicket ticket

namespace Engine

inductive Handling (engine : Engine) (telegram : Telegram) : Prop where
  /-- A read request of another participant. -/
  | passed (asked : telegram.isReadRequest = true)
      (handled : engine.dispatch telegram = (.ok none, engine))
  | refused (told : telegram.isReadRequest = false)
      (unknown : engine.messages.get? telegram.identification = none)
      (handled : engine.dispatch telegram =
        (.error (.failed (.unknownMessage telegram.identification)), engine))
  /-- The broadcast of the bitmap. -/
  | presence (layout : MessageLayout) (told : telegram.isReadRequest = false)
      (known : engine.messages.get? telegram.identification = some layout)
      (online : telegram.identification = onlineMessage)
      (handled : engine.dispatch telegram =
        let outcome := engine.updatePresence layout telegram.payload telegram.offset.toNat
        (outcome.1.map fun () => none, outcome.2))
  /-- A message of an identified device. -/
  | kept (layout : MessageLayout) (device : Device) (told : telegram.isReadRequest = false)
      (known : engine.messages.get? telegram.identification = some layout)
      (other : telegram.identification ≠ onlineMessage)
      (identified : engine.registry.device? (withoutReadFlag telegram.source) = some device)
      (handled : engine.dispatch telegram = engine.keep (withoutReadFlag telegram.source) device
        layout telegram.payload telegram.offset.toNat)
  /-- A version message of an address that is not identified. -/
  | version (layout : MessageLayout) (told : telegram.isReadRequest = false)
      (known : engine.messages.get? telegram.identification = some layout)
      (own : telegram.identification = versionMessage)
      (unidentified : engine.registry.device? (withoutReadFlag telegram.source) = none)
      (handled : engine.dispatch telegram = engine.identify (withoutReadFlag telegram.source)
        layout telegram.payload telegram.offset.toNat)
  /-- Any other message of such an address. -/
  | shown (layout : MessageLayout) (told : telegram.isReadRequest = false)
      (known : engine.messages.get? telegram.identification = some layout)
      (other : telegram.identification ≠ onlineMessage)
      (foreign : telegram.identification ≠ versionMessage)
      (unidentified : engine.registry.device? (withoutReadFlag telegram.source) = none)
      (handled : engine.dispatch telegram = engine.showUnidentified
        (withoutReadFlag telegram.source) layout telegram.payload telegram.offset.toNat)

theorem handling (engine : Engine) (telegram : Telegram) : engine.Handling telegram := by
  cases asked : telegram.isReadRequest with
  | true => exact .passed asked (by rw [dispatch, if_pos asked])
  | false =>
    have told : ¬ telegram.isReadRequest = true := by simp [asked]
    cases known : engine.messages.get? telegram.identification with
    | none => exact .refused asked known (by simp only [dispatch, if_neg told, known])
    | some layout =>
      by_cases online : telegram.identification = onlineMessage
      · refine .presence layout asked known online ?_
        simp only [dispatch, if_neg told, known, if_pos online]
      · cases identified : engine.registry.device? (withoutReadFlag telegram.source) with
        | some device =>
          refine .kept layout device asked known online identified ?_
          simp only [dispatch, if_neg told, known, if_neg online, identified]
        | none =>
          by_cases own : telegram.identification = versionMessage
          · refine .version layout asked known own identified ?_
            simp only [dispatch, if_neg told, known, if_neg online, identified, if_pos own]
          · refine .shown layout asked known online own identified ?_
            simp only [dispatch, if_neg told, known, if_neg online, identified, if_neg own]

section
variable {engine : Engine} {source : BusAddress} {layout : MessageLayout} {window : Window}
  {device : Device} {error : BusError}

/-! ## Presence -/

theorem updatePresence_of_not_fits (sticks : ¬ window.FitsInto layout) :
    engine.updatePresence layout window.bytes window.offset =
      (.error (.failed (.outOfRange window.offset window.bytes.length layout.length)), engine) :=
  if_pos (Nat.lt_of_not_le sticks)

theorem registry_updatePresence (fits : window.FitsInto layout) :
    (engine.updatePresence layout window.bytes window.offset).2.registry =
      (engine.registry.applyOnlineUpdate window.bytes window.offset).registry := by
  rw [updatePresence, if_neg (Nat.not_lt.mpr fits)]
  exact registry_request _ _

theorem updatePresence_ne_failed (fits : window.FitsInto layout) :
    (engine.updatePresence layout window.bytes window.offset).1 ≠ .error (.failed error) := by
  rw [updatePresence, if_neg (Nat.not_lt.mpr fits)]
  exact request_ne_failed _ _ error

/-! ## Messages of identified devices -/

theorem keep_of_not_fits
    (sticks : ¬ window.FitsInto (device.cachedOrNew layout).message.layout) :
    engine.keep source device layout window.bytes window.offset =
      (.error (.failed (.outOfRange window.offset window.bytes.length
          (device.cachedOrNew layout).message.layout.length)),
        { engine with
          registry := engine.registry.store source device layout.identification
            (device.cachedOrNew layout) }) := by
  simp only [keep, (device.cachedOrNew layout).message.parse_of_not_fits sticks]

/-- A message that arrives is entered, and its ticket is drawn and dropped at once. -/
theorem registry_keep (fits : window.FitsInto (device.cachedOrNew layout).message.layout) :
    (engine.keep source device layout window.bytes window.offset).2.registry =
      engine.registry.store source device layout.identification
        ⟨(device.cachedOrNew layout).message.absorb window,
          (device.cachedOrNew layout).order.draw.drop (device.cachedOrNew layout).order.next⟩ := by
  simp only [keep, (device.cachedOrNew layout).message.parse_of_fits fits,
    Message.absorb_of_fits fits]
  rfl

theorem keep_ne_failed (fits : window.FitsInto (device.cachedOrNew layout).message.layout) :
    (engine.keep source device layout window.bytes window.offset).1 ≠ .error (.failed error) := by
  simp [keep, (device.cachedOrNew layout).message.parse_of_fits fits]

/-! ## Version messages -/

theorem registry_enter {product : Product} {version : Message} {changed : List Nat} :
    engine.registry.MayIdentify source product version
      (engine.enter source product version changed).2.registry := by
  simp only [enter]
  split
  · exact .inl rfl
  · rename_i info ticket found
    split
    · rename_i requested
      exact .inl (registry_of_request requested)
    · rename_i requested
      refine .inr ⟨ticket, ?_⟩
      exact congrArg (·.dropTicket ticket) (registry_of_request requested)

theorem enter_ne_failed {product : Product} {version : Message} {changed : List Nat} :
    (engine.enter source product version changed).1 ≠ .error (.failed error) := by
  simp only [enter]
  split
  · simp
  · split
    · rename_i requested
      simp [eq_waiting_of_request requested]
    · simp

theorem identify_of_not_fits (sticks : ¬ window.FitsInto layout) :
    engine.identify source layout window.bytes window.offset =
      (.error (.failed (.outOfRange window.offset window.bytes.length layout.length)), engine) := by
  rw [identify, (Message.new layout).parse_of_not_fits sticks]
  rfl

/-- A version message makes nothing of the registry, or it identifies a device. -/
theorem registry_identify :
    (engine.identify source layout window.bytes window.offset).2.registry = engine.registry ∨
      ∃ product version, engine.registry.MayIdentify source product version
        (engine.identify source layout window.bytes window.offset).2.registry := by
  rw [identify]
  split
  · exact .inl rfl
  · simp only
    split
    · exact .inl rfl
    · split
      · exact .inl rfl
      · exact .inr ⟨_, _, registry_enter⟩

theorem identify_ne_failed (fits : window.FitsInto layout) :
    (engine.identify source layout window.bytes window.offset).1 ≠ .error (.failed error) := by
  simp only [identify, (Message.new layout).parse_of_fits fits]
  split
  · simp
  · split
    · simp
    · exact enter_ne_failed

/-! ## Messages of other addresses -/

theorem registry_showUnidentified :
    (engine.showUnidentified source layout window.bytes window.offset).2.registry =
      engine.registry := by
  rw [showUnidentified]
  split <;> rfl

theorem showUnidentified_of_not_fits (sticks : ¬ window.FitsInto layout) :
    engine.showUnidentified source layout window.bytes window.offset =
      (.error (.failed (.outOfRange window.offset window.bytes.length layout.length)), engine) := by
  rw [showUnidentified, (Message.new layout).parse_of_not_fits sticks]
  rfl

theorem showUnidentified_ne_failed (fits : window.FitsInto layout) :
    (engine.showUnidentified source layout window.bytes window.offset).1 ≠
      .error (.failed error) := by
  simp [showUnidentified, (Message.new layout).parse_of_fits fits]

end

end Engine

end HeatingBus
