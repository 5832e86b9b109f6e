import HeatingBus.Engine.Basic

/-!
# Dispatch

What the engine does with a telegram. The broadcast of the bitmap says who is present; a version
message of an unidentified address may identify it; any other message of an identified device is
kept and reported, and one of an unidentified address is only shown. Read requests of others are of
no concern.
-/

namespace HeatingBus

open Text

namespace Engine

/-! ## Events -/

def notify (engine : Engine) (event : BusEvent) : Option BusEvent × Engine :=
  (engine.sink.deliver event, engine.say engine.sink.notes)

/-! ## Presence -/

def departureNote (address : BusAddress) : LogEntry :=
  .info ("Device 0x" ++ hexByte address ++ " went offline")

def versionRequest (address : BusAddress) : FollowUp where
  address := address
  identification := versionMessage
  announcement := [.info ("Device 0x" ++ hexByte address ++ " came online, requesting version")]
  failureText := "Version request to 0x" ++ hexByte address

def updatePresence (engine : Engine) (layout : MessageLayout) (payload : Bytes) (offset : Nat) :
    Except Halt Unit × Engine :=
  if layout.length < offset + payload.length then
    (.error (.failed (.outOfRange offset payload.length layout.length)), engine)
  else
    let update := engine.registry.applyOnlineUpdate payload offset
    let engine := { engine with registry := update.registry }.say
      (update.notes ++ update.change.wentOffline.map departureNote)
    -- The engine itself is no device to be asked.
    engine.request ((update.change.cameOnline.filter (· ≠ engine.config.clientId)).map
      versionRequest)

/-! ## Identification -/

def initialRequest (address : BusAddress) (identification : UInt8) : FollowUp where
  address := address
  identification := identification
  announcement := []
  failureText := "Initial request 0x" ++ hexByteUpper identification ++ " to 0x" ++ hexByte address

def reportedProduct? (version : Message) : Option Int64 := do
  (← version.value? productField).asInteger?

def product? (engine : Engine) (id : Int64) : Option Product :=
  if 0 ≤ id.toInt ∧ id.toInt ≤ 0xFF then engine.devices.lookup? (UInt8.ofNat id.toInt.toNat)
  else none

/-- Enters a device of a known product, asks it for its first messages and reports it. -/
def enter (engine : Engine) (source : BusAddress) (product : Product) (version : Message)
    (changed : List Nat) : Except Halt (Option BusEvent) × Engine :=
  let identification := engine.registry.identify source product version
  let engine := { engine with registry := identification.registry }.say identification.notes
  match identification.found with
  | none => (.ok none, engine)
  | some (info, ticket) =>
    let note := LogEntry.info (s!"Found {product.deviceType.label} {product.name} at 0x" ++
      hexByte source ++ s!" (product {product.id})")
    let requests := engine.devices.initialRequests product.deviceType
    match (engine.say [note]).request (requests.map (initialRequest source)) with
    | (.error halt, engine) => (.error halt, engine)
    -- Nothing else is reported of the version message before the ticket is dropped.
    | (.ok (), engine) =>
      let (event, engine) := engine.notify
        ⟨.discovered, info, version, version.fieldNames changed⟩
      (.ok event, { engine with registry := engine.registry.dropTicket ticket })

def identify (engine : Engine) (source : BusAddress) (layout : MessageLayout) (payload : Bytes)
    (offset : Nat) : Except Halt (Option BusEvent) × Engine :=
  match (Message.new layout).parse payload offset with
  | .error error => (.error (.failed error), engine)
  | .ok update =>
    let engine := engine.say update.notes
    match reportedProduct? update.message with
    | none =>
      (.ok none, engine.say
        [.debug ("Version message from 0x" ++ hexByte source ++ " without product id")])
    | some id =>
      match engine.product? id with
      | none =>
        (.ok none, engine.say [.error (s!"Found unknown device with product id {id.toInt} at 0x" ++
          hexByte source)])
      | some product => engine.enter source product update.message update.changed

/-! ## Other messages -/

/-- Shows a message of an address that is not identified, without keeping it. -/
def showUnidentified (engine : Engine) (source : BusAddress) (layout : MessageLayout)
    (payload : Bytes) (offset : Nat) : Except Halt (Option BusEvent) × Engine :=
  match (Message.new layout).parse payload offset with
  | .error error => (.error (.failed error), engine)
  | .ok update =>
    let note := LogEntry.debug (s!"{layout.name} from unidentified 0x" ++ hexByte source ++
      s!" ({(engine.registry.state source).name})")
    (.ok none, engine.say (update.notes ++ note :: update.message.dump))

def keep (engine : Engine) (source : BusAddress) (device : Device) (layout : MessageLayout)
    (payload : Bytes) (offset : Nat) : Except Halt (Option BusEvent) × Engine :=
  let identification := layout.identification
  let cached := device.cachedOrNew layout
  match cached.message.parse payload offset with
  -- A message that is heard of for the first time is kept even if the telegram does not fit into it.
  | .error error =>
    (.error (.failed error),
      { engine with registry := engine.registry.store source device identification cached })
  | .ok update =>
    let place := cached.order.next
    let order := cached.order.draw.drop place
    let registry := engine.registry.store source device identification ⟨update.message, order⟩
    let (event, engine) := ({ engine with registry }.say update.notes).notify
      ⟨.updated, device.info, update.message, update.message.fieldNames update.changed⟩
    (.ok event, engine)

def dispatch (engine : Engine) (telegram : Telegram) : Except Halt (Option BusEvent) × Engine :=
  let source := withoutReadFlag telegram.source
  let offset := telegram.offset.toNat
  -- A read request carries no state: the answer to it will.
  if telegram.isReadRequest then (.ok none, engine)
  else match engine.messages.get? telegram.identification with
    | none => (.error (.failed (.unknownMessage telegram.identification)), engine)
    | some layout =>
      if telegram.identification = onlineMessage then
        let (result, engine) := engine.updatePresence layout telegram.payload offset
        (result.map fun () => none, engine)
      else match engine.registry.device? source with
        | some device => engine.keep source device layout telegram.payload offset
        | none =>
          if telegram.identification = versionMessage then
            engine.identify source layout telegram.payload offset
          else engine.showUnidentified source layout telegram.payload offset

end Engine

end HeatingBus
