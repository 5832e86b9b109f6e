import HeatingBus.Text.Hex

/-!
# Texts of JSON documents

How a text is written between double quotes, and how it is read back. Reading takes two steps: the
characters between the quotes become units, which are characters or escaped 16-bit codes, and the
units become a text, two codes of a surrogate pair being one character. A text with a surrogate code
that has no partner is well formed but stands for nothing.
-/

namespace HeatingBus.Json

open HeatingBus.Text

/-! ## Writing -/

def escapeChar (c : Char) : List Char :=
  if c = '"' then ['\\', '"']
  else if c = '\\' then ['\\', '\\']
  else if c = '\x08' then ['\\', 'b']
  else if c = '\x0c' then ['\\', 'f']
  else if c = '\n' then ['\\', 'n']
  else if c = '\r' then ['\\', 'r']
  else if c = '\t' then ['\\', 't']
  else if c.toNat < 0x20 then
    ['\\', 'u', '0', '0', Nat.digitChar (c.toNat / 16), Nat.digitChar (c.toNat % 16)]
  else [c]

def quotedChars (text : List Char) : List Char :=
  '"' :: text.flatMap escapeChar ++ ['"']

def quotedText (text : String) : String :=
  String.ofList (quotedChars text.toList)

/-! ## Reading -/

/-- What stands between the quotes: a character, or a 16-bit code from an escape. -/
inductive TextUnit where
  | char (c : Char)
  | code (value : Nat)
  deriving Repr, DecidableEq

def simpleEscape? (letter : Char) : Option Char :=
  match letter with
  | '"' => some '"'
  | '\\' => some '\\'
  | '/' => some '/'
  | 'b' => some '\x08'
  | 'f' => some '\x0c'
  | 'n' => some '\n'
  | 'r' => some '\r'
  | 't' => some '\t'
  | _ => none

def fourDigits? (a b c d : Char) : Option Nat := do
  let a ← hexValue? a
  let b ← hexValue? b
  let c ← hexValue? c
  let d ← hexValue? d
  return 4096 * a + 256 * b + 16 * c + d

/-- The units up to the closing quote, and what follows it. Control characters are not allowed. -/
def readUnits? : List Char → Option (List TextUnit × List Char)
  | [] => none
  | '"' :: rest => some ([], rest)
  | '\\' :: 'u' :: a :: b :: c :: d :: rest => do
    let value ← fourDigits? a b c d
    let (units, remaining) ← readUnits? rest
    return (.code value :: units, remaining)
  | '\\' :: letter :: rest => do
    let c ← simpleEscape? letter
    let (units, remaining) ← readUnits? rest
    return (.char c :: units, remaining)
  | c :: rest =>
    if c.toNat < 0x20 ∨ c = '\\' then none
    else do
      let (units, remaining) ← readUnits? rest
      return (.char c :: units, remaining)

def isHighSurrogate (code : Nat) : Bool := 0xD800 ≤ code && code ≤ 0xDBFF

def isLowSurrogate (code : Nat) : Bool := 0xDC00 ≤ code && code ≤ 0xDFFF

/-- The characters that units stand for, if every surrogate code has its partner. -/
def joinUnits? : List TextUnit → Option (List Char)
  | [] => some []
  | .char c :: rest => (joinUnits? rest).map (c :: ·)
  | .code high :: .code low :: rest =>
    if isHighSurrogate high ∧ isLowSurrogate low then
      (joinUnits? rest).map
        (Char.ofNat (0x10000 + (high - 0xD800) * 0x400 + (low - 0xDC00)) :: ·)
    else if isHighSurrogate high ∨ isLowSurrogate high then none
    else (joinUnits? (.code low :: rest)).map (Char.ofNat high :: ·)
  | .code value :: rest =>
    if isHighSurrogate value ∨ isLowSurrogate value then none
    else (joinUnits? rest).map (Char.ofNat value :: ·)

end HeatingBus.Json
