import HeatingBus.Text.Hex

/-!
# Verbosity of the bus driver

The driver takes a set of six bits. One of them, packets, also turns on the telegram dumps of the
library itself.
-/

namespace HeatingBus

def driverLogMask : UInt8 := 0x3F

structure DriverLogLevel where
  bits : UInt8
  known : bits &&& driverLogMask = bits
  deriving DecidableEq

namespace DriverLogLevel

/-- The level of some bits; bits that the driver does not know are left out. -/
def ofBits (bits : UInt8) : DriverLogLevel where
  bits := bits &&& driverLogMask
  known := by rw [UInt8.and_assoc, UInt8.and_self]

def named : List (String × UInt8) :=
  [("ERROR", 0x01), ("INFO", 0x02), ("VERBOSE", 0x04), ("PACKET", 0x08), ("MAC", 0x10),
    ("CHAR", 0x20)]

def packetBit : UInt8 := 0x08

/-- The level of a driver that was told nothing: errors only. -/
def standard : DriverLogLevel := ofBits 0x01

def names (level : DriverLogLevel) : List String :=
  (named.filter fun (_, bit) => level.bits &&& bit != 0).map (·.1)

def logsPackets (level : DriverLogLevel) : Bool :=
  level.bits &&& packetBit != 0

end DriverLogLevel

end HeatingBus
