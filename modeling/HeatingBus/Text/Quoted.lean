import HeatingBus.Text.Shapeless

/-!
# Quoted characters and texts

How a character or a text from outside is shown inside a message: between quotes, with whatever
would not be seen written as an escape.
-/

namespace HeatingBus.Text

/-- The escape that names a character by its code point in lower-case hexadecimal. -/
def codeEscape (c : Char) : List Char :=
  ['\\', 'u', '\x7b'] ++ Nat.toDigits 16 c.toNat ++ ['\x7d']

def escapeInQuotes (quote c : Char) : List Char :=
  if c = '\x00' then ['\\', '0']
  else if c = '\t' then ['\\', 't']
  else if c = '\r' then ['\\', 'r']
  else if c = '\n' then ['\\', 'n']
  else if c = '\\' ∨ c = quote then ['\\', c]
  else if isShapeless c then codeEscape c
  else [c]

def quotedChar (c : Char) : String :=
  String.ofList ('\'' :: escapeInQuotes '\'' c ++ ['\''])

def quoted (text : String) : String :=
  String.ofList ('"' :: text.toList.flatMap (escapeInQuotes '"') ++ ['"'])

end HeatingBus.Text
