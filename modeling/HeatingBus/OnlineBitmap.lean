import HeatingBus.Telegram
import HeatingBus.Word

/-!
# The online bitmap

The bus master broadcasts which addresses are present, one bit for each address from 8 to 71.
Updates arrive as windows into the eight bytes; what lies past them is of no concern.
-/

namespace HeatingBus

abbrev bitmapLength : Nat := 8

def firstBitmapAddress : BusAddress := 8

structure OnlineBitmap where
  bytes : Vector UInt8 bitmapLength
  deriving Repr, DecidableEq

/-- The addresses whose presence differs between two bitmaps, in ascending order. -/
structure BitmapChange where
  cameOnline : List BusAddress
  wentOffline : List BusAddress
  deriving Repr, DecidableEq

def BitmapChange.isEmpty (change : BitmapChange) : Bool :=
  change.cameOnline.isEmpty && change.wentOffline.isEmpty

namespace OnlineBitmap

def empty : OnlineBitmap := ⟨Vector.replicate bitmapLength 0⟩

/-- The bitmap of some bytes, filled up with zeros. -/
def ofBytes (bytes : Bytes) : OnlineBitmap := ⟨Vector.ofFn fun place => bytes.getD place 0⟩

def mask (bit : Nat) : UInt8 := 1 <<< UInt8.ofNat bit

def setBits (byte : UInt8) : List Nat :=
  (List.range 8).filter fun bit => byte &&& mask bit != 0

def addressOf (place bit : Nat) : BusAddress :=
  UInt8.ofNat (8 * (place + 1) + bit)

def addressesOf (bytes : Vector UInt8 bitmapLength) : List BusAddress :=
  bytes.toList.zipIdx.flatMap fun (byte, place) => (setBits byte).map (addressOf place)

def addresses (bitmap : OnlineBitmap) : List BusAddress :=
  addressesOf bitmap.bytes

def isOnline (bitmap : OnlineBitmap) (address : BusAddress) : Bool :=
  let index := address.toNat - firstBitmapAddress.toNat
  firstBitmapAddress ≤ address &&
    match bitmap.bytes[index / 8]? with
    | some byte => byte &&& mask (index % 8) != 0
    | none => false

def withUpdate (bitmap : OnlineBitmap) (update : Bytes) (offset : Nat) : OnlineBitmap where
  bytes := Vector.ofFn fun place =>
    if offset ≤ place.val then (update[place.val - offset]?).getD bitmap.bytes[place]
    else bitmap.bytes[place]

def set (bitmap : OnlineBitmap) (place : Nat) (byte : UInt8) : OnlineBitmap :=
  ⟨bitmap.bytes.setIfInBounds place byte⟩

/-- The bitmap once bytes have been put into it one after the other, the first of them at the place
`offset + index`. The program stops at a place that is no word. -/
def putFrom? (bitmap : OnlineBitmap) (offset index : Nat) : Bytes → Option OnlineBitmap
  | [] => some bitmap
  | byte :: rest => do
    let place ← wordSum? offset index
    (bitmap.set place byte).putFrom? offset (index + 1) rest

/-- The bitmap after a window of it was broadcast, wherever the window starts. -/
def withUpdate? (bitmap : OnlineBitmap) (update : Bytes) (offset : Nat) : Option OnlineBitmap :=
  bitmap.putFrom? offset 0 update

def diff (bitmap newer : OnlineBitmap) : BitmapChange where
  cameOnline :=
    addressesOf (bitmap.bytes.zipWith (fun old new => (old ^^^ new) &&& new) newer.bytes)
  wentOffline :=
    addressesOf (bitmap.bytes.zipWith (fun old new => (old ^^^ new) &&& old) newer.bytes)

end OnlineBitmap

end HeatingBus
