import HeatingBus.Text.Hex

/-!
# The character set of text fields

ISO-8859-15, also called Latin-9: every byte is the character of its own number, except for eight
bytes that stand for characters from elsewhere. The characters whose bytes they took are not in the
set.
-/

namespace HeatingBus.Text.LatinNine

/-- The eight bytes that do not stand for the character of their number. -/
def replaced : List (UInt8 × Char) :=
  [(0xA4, '\u20AC'), (0xA6, '\u0160'), (0xA8, '\u0161'), (0xB4, '\u017D'), (0xB8, '\u017E'),
    (0xBC, '\u0152'), (0xBD, '\u0153'), (0xBE, '\u0178')]

def charOfByte (byte : UInt8) : Char :=
  match replaced.find? (·.1 = byte) with
  | some (_, c) => c
  | none => Char.ofNat byte.toNat

def byteOfChar? (c : Char) : Option UInt8 :=
  match replaced.find? (·.2 = c) with
  | some (byte, _) => some byte
  | none =>
    if c.toNat < 256 ∧ ¬ replaced.any (·.1.toNat = c.toNat) then some (UInt8.ofNat c.toNat)
    else none

def decode (bytes : Bytes) : String :=
  String.ofList (bytes.map charOfByte)

def encodeChars : List Char → Except Char Bytes
  | [] => .ok []
  | c :: rest =>
    match byteOfChar? c with
    | none => .error c
    | some byte => (encodeChars rest).map (byte :: ·)

/-- The bytes of a text, or else its first character that is not in the set. -/
def encode (text : String) : Except Char Bytes :=
  encodeChars text.toList

end HeatingBus.Text.LatinNine
