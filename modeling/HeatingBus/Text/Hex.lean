/-!
# Hexadecimal and padded text

The shapes in which bytes and columns are written: two digits a byte, in either case, run together
or spaced, and texts filled up with blanks to a column width.
-/

namespace HeatingBus

abbrev Bytes := List UInt8

namespace Text

/-! ## Bytes -/

def hexByte (byte : UInt8) : String :=
  String.ofList [Nat.digitChar (byte.toNat / 16), Nat.digitChar (byte.toNat % 16)]

def hexByteUpper (byte : UInt8) : String :=
  let upper (digit : Nat) := (Nat.digitChar digit).toUpper
  String.ofList [upper (byte.toNat / 16), upper (byte.toNat % 16)]

/-- Bytes in lower-case hexadecimal, run together. -/
def hexString (bytes : Bytes) : String :=
  String.join (bytes.map hexByte)

/-- Bytes in upper-case hexadecimal with a blank between two of them. -/
def hexSpaced (bytes : Bytes) : String :=
  " ".intercalate (bytes.map hexByteUpper)

def hexValue? (c : Char) : Option Nat :=
  if c.isDigit then some (c.toNat - '0'.toNat)
  else if 'a' ≤ c ∧ c ≤ 'f' then some (c.toNat - 'a'.toNat + 10)
  else if 'A' ≤ c ∧ c ≤ 'F' then some (c.toNat - 'A'.toNat + 10)
  else none

def bytesOfHex? : List Char → Option Bytes
  | [] => some []
  | high :: low :: rest => do
    let upper ← hexValue? high
    let lower ← hexValue? low
    let bytes ← bytesOfHex? rest
    return UInt8.ofNat (16 * upper + lower) :: bytes
  | [_] => none

/-! ## Columns -/

def padRight (width : Nat) (text : String) : String :=
  text ++ String.ofList (List.replicate (width - text.length) ' ')

def padLeft (width : Nat) (text : String) : String :=
  String.ofList (List.replicate (width - text.length) ' ') ++ text

def zeroPadded (width number : Nat) : String :=
  let digits := Nat.toDigits 10 number
  String.ofList (List.replicate (width - digits.length) '0' ++ digits)

end Text

end HeatingBus
