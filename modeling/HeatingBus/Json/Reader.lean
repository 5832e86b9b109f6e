import HeatingBus.Json.Number
import HeatingBus.Json.Text

/-!
# Reading JSON documents

A document as a tree. Numbers are kept as literals and texts may stand for nothing, so that a part
of a document that nobody asks for has to be well formed and nothing more.
-/

namespace HeatingBus.Json

open Decimal

inductive Node where
  | null
  | bool (value : Bool)
  | number (literal : NumberLiteral)
  /-- A text, or nothing for one with an unpaired surrogate. -/
  | text (value : Option String)
  | array (elements : List Node)
  | object (members : List (Option String × Node))
  deriving Repr

mutual

/-- The number of arrays and objects that stand inside of each other, the value itself included. -/
def Node.depth : Node → Nat
  | .array elements => depthOfElements elements + 1
  | .object members => depthOfMembers members + 1
  | _ => 0

def depthOfElements : List Node → Nat
  | [] => 0
  | node :: rest => max node.depth (depthOfElements rest)

def depthOfMembers : List (Option String × Node) → Nat
  | [] => 0
  | (_, node) :: rest => max node.depth (depthOfMembers rest)

end

/-! ## Lexical parts -/

def isSpace (c : Char) : Bool :=
  c = ' ' || c = '\n' || c = '\t' || c = '\r'

def dropSpaces (text : List Char) : List Char :=
  text.dropWhile isSpace

def afterWord? (word : String) (text : List Char) : Option (List Char) :=
  if word.toList.isPrefixOf text then some (text.drop word.length) else none

def afterMark? (mark : Char) (text : List Char) : Option (List Char) :=
  match dropSpaces text with
  | c :: rest => if c = mark then some rest else none
  | [] => none

/-- The digits before the point: a zero stands alone. -/
def readWhole? (text : List Char) : Option (List Char × List Char) :=
  match splitDigits text with
  | ([], _) => none
  | ('0' :: _ :: _, _) => none
  | parts => some parts

def readFraction? : List Char → Option (Option (List Char) × List Char)
  | '.' :: rest =>
    match splitDigits rest with
    | ([], _) => none
    | (digits, remaining) => some (some digits, remaining)
  | rest => some (none, rest)

def readExponentPart? : List Char → Option (Option Int × List Char)
  | [] => some (none, [])
  | mark :: rest =>
    if mark = 'e' ∨ mark = 'E' then
      let (negative, afterSign) := splitSign rest
      match splitDigits afterSign with
      | ([], _) => none
      | (digits, remaining) =>
        let size : Int := digitsValue digits
        some (some (if negative then -size else size), remaining)
    else some (none, mark :: rest)

def readNumber? (text : List Char) : Option (NumberLiteral × List Char) := do
  let (negative, text) := match text with
    | '-' :: rest => (true, rest)
    | rest => (false, rest)
  let (whole, text) ← readWhole? text
  let (fraction, text) ← readFraction? text
  let (exponent, text) ← readExponentPart? text
  return (⟨negative, whole, fraction, exponent⟩, text)

def readText? (text : List Char) : Option (Option String × List Char) := do
  let (units, rest) ← readUnits? text
  return ((joinUnits? units).map String.ofList, rest)

/-! ## Values -/

mutual

/-- A value at the start of a text, after spaces; `fuel` bounds the number of steps. -/
def readNode? : Nat → List Char → Option (Node × List Char)
  | 0, _ => none
  | fuel + 1, text =>
    match dropSpaces text with
    | 'n' :: rest => (afterWord? "ull" rest).map (Node.null, ·)
    | 't' :: rest => (afterWord? "rue" rest).map (Node.bool true, ·)
    | 'f' :: rest => (afterWord? "alse" rest).map (Node.bool false, ·)
    | '"' :: rest => (readText? rest).map fun (value, remaining) => (.text value, remaining)
    | '[' :: rest =>
      match afterMark? ']' rest with
      | some remaining => some (.array [], remaining)
      | none => (readElements? fuel rest).map fun (nodes, remaining) => (.array nodes, remaining)
    | '\x7b' :: rest =>
      match afterMark? '\x7d' rest with
      | some remaining => some (.object [], remaining)
      | none => (readMembers? fuel rest).map fun (nodes, remaining) => (.object nodes, remaining)
    | rest => (readNumber? rest).map fun (literal, remaining) => (.number literal, remaining)

def readElements? : Nat → List Char → Option (List Node × List Char)
  | 0, _ => none
  | fuel + 1, text => do
    let (node, text) ← readNode? fuel text
    match afterMark? ',' text with
    | some rest =>
      let (nodes, remaining) ← readElements? fuel rest
      return (node :: nodes, remaining)
    | none =>
      let remaining ← afterMark? ']' text
      return ([node], remaining)

def readMembers? : Nat → List Char → Option (List (Option String × Node) × List Char)
  | 0, _ => none
  | fuel + 1, text => do
    let text ← afterMark? '"' text
    let (key, text) ← readText? text
    let text ← afterMark? ':' text
    let (node, text) ← readNode? fuel text
    match afterMark? ',' text with
    | some rest =>
      let (members, remaining) ← readMembers? fuel rest
      return ((key, node) :: members, remaining)
    | none =>
      let remaining ← afterMark? '\x7d' text
      return ([(key, node)], remaining)

end

/-- The tree of a whole document. Two steps take at least one character. -/
def parse? (document : String) : Option Node := do
  let text := document.toList
  let (node, rest) ← readNode? (2 * text.length + 2) text
  if (dropSpaces rest).isEmpty then return node else none

end HeatingBus.Json
