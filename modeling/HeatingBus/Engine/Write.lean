import HeatingBus.Engine.Basic

/-!
# Writes

A write sends the bytes of one field to a device. Nothing is known of its success: the device
reports its new state with its next message.
-/

namespace HeatingBus

open Text

namespace Engine

def writableLayout (engine : Engine) (address : BusAddress) (product : Product)
    (identification : UInt8) : Except BusError MessageLayout :=
  if product.readOnly then .error (.writeNotSupported address product.name)
  else match engine.messages.get? identification with
    | none => .error (.unknownMessage identification)
    | some layout =>
      if layout.writable then .ok layout
      else .error (.writeNotSupported address s!"{product.name} ({layout.name})")

def rangeNotes (field : Field) (value : Value) : List LogEntry :=
  match field.displayUnit with
  | some displayUnit =>
    if displayUnit.contains value then []
    else [.warn (s!"Value {value.describe} of {field.name} is outside the range of " ++
      displayUnit.describe)]
  | none => []

def writeTelegram (engine : Engine) (address : BusAddress) (message : Message) (field : Field)
    (value : Value) : Except BusError Telegram := do
  let (position, bytes) ← message.encodeWrite field.name value
  if 0xFF < position then throw (.internal (.fieldBeyondOffset field.name))
  Telegram.write engine.config.clientId address message.identification (UInt8.ofNat position) bytes

def setValue (engine : Engine) (address : UInt8) (identification : UInt8) (name : String)
    (value : Value) : Except Halt Unit × Engine :=
  let address := withoutReadFlag address
  match engine.registry.device? address with
  | none => (.error (.failed (.deviceNotOnline address)), engine)
  | some device =>
    match engine.writableLayout address device.product identification with
    | .error error => (.error (.failed error), engine)
    | .ok layout =>
      match layout.field? name with
      | none => (.error (.failed (.unknownField identification name)), engine)
      | some field =>
        -- A message that nobody has heard of yet is kept from now on.
        let cached := device.cachedOrNew layout
        let registry := engine.registry.store address device layout.identification cached
        let engine := { engine with registry }.say (rangeNotes field value)
        match engine.writeTelegram address cached.message field value with
        | .error error => (.error (.failed error), engine)
        | .ok telegram =>
          let note := LogEntry.info (s!"Writing {name} = {value.describe} to 0x" ++
            hexByte address ++ " message 0x" ++ hexByteUpper identification)
          (engine.say [note]).send telegram

end Engine

end HeatingBus
