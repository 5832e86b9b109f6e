import HeatingBus.Message.Basic
import HeatingBus.OnlineBitmap

/-!
# Message catalogues

The layouts of all messages that the engine understands, by identification code. The version message
and the broadcast of the online bitmap have to be among them, since discovery rests on them.
-/

namespace HeatingBus

/-! ## Codes with a meaning of their own -/

def versionMessage : UInt8 := 0x02

def onlineMessage : UInt8 := 0x07

def productField : String := "product_id"

/-! ## Catalogues -/

/-- The layouts of the known messages, each code once. -/
structure MessageCatalog where
  layouts : List MessageLayout

namespace MessageCatalog

def get? (catalog : MessageCatalog) (identification : UInt8) : Option MessageLayout :=
  catalog.layouts.find? (·.identification = identification)

def contains (catalog : MessageCatalog) (identification : UInt8) : Bool :=
  (catalog.get? identification).isSome

def size (catalog : MessageCatalog) : Nat := catalog.layouts.length

def identifications (catalog : MessageCatalog) : List UInt8 :=
  ((List.range 256).map UInt8.ofNat).filter catalog.contains

def extend (catalog : MessageCatalog) : List MessageRow → Except BusError MessageCatalog
  | [] => .ok catalog
  | row :: rest => do
    let layout ← MessageLayout.ofRow row
    if catalog.contains layout.identification then
      throw (.configuration (.duplicateMessage layout.identification))
    extend ⟨catalog.layouts ++ [layout]⟩ rest

/-- Whether a catalogue has the messages that discovery rests on. -/
def checkDiscovery (catalog : MessageCatalog) : Except ConfigurationFault Unit :=
  match catalog.get? versionMessage with
  | none => .error .versionMissing
  | some version =>
    if (version.field? productField).isNone then .error (.versionWithoutField productField)
    else match catalog.get? onlineMessage with
      | none => .error .onlineBitmapMissing
      | some online =>
        if online.length < bitmapLength then .error .onlineBitmapTooShort else .ok ()

def ofRows (rows : List MessageRow) : Except BusError MessageCatalog := do
  let catalog ← extend ⟨[]⟩ rows
  (catalog.checkDiscovery).mapError .configuration
  return catalog

end MessageCatalog

end HeatingBus
