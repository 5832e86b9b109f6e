import HeatingBus.Decimal.Reader
import HeatingBus.Error
import HeatingBus.Json.Reader
import HeatingBus.Yaml.Reader

/-!
# Configuration documents

The tree of a configuration, whichever format it was written in. A scalar carries all that it can be
read as, so that nobody after this module asks for the format: in a JSON document a number is no
text, in a YAML document a plain number is one. A list stands for parts without names in a JSON
document only; in a YAML document it stands for nothing.
-/

namespace HeatingBus

open Decimal Text

structure ConfigScalar where
  /-- The text that the value is. -/
  text : Option String
  /-- The number that the value is; it fits into 64 bits. -/
  number : Option Nat
  /-- Whether nothing at all is written where the value should be. -/
  isAbsent : Bool
  deriving Repr, DecidableEq

inductive ConfigDocument where
  | scalar (value : ConfigScalar)
  | list (items : List ConfigDocument)
  /-- Entries by their keys; a key that is no text is nothing. -/
  | table (entries : List (Option String × ConfigDocument))
  /-- A choice that is written as a table with the chosen name as its only key. -/
  | choice (name : String)
  deriving Repr

namespace ConfigDocument

def greatestNumber : Nat := 0xFFFFFFFFFFFFFFFF

def unfit : ConfigDocument := .scalar ⟨none, none, false⟩

/-! ## JSON documents -/

def ofLiteral (literal : Json.NumberLiteral) : ConfigScalar where
  text := none
  number := literal.integer?.bind fun value => if 0 ≤ value then some value.toNat else none
  isAbsent := false

mutual

def ofJson : Json.Node → ConfigDocument
  | .null | .bool _ => unfit
  | .number literal => .scalar (ofLiteral literal)
  | .text text => .scalar ⟨text, none, false⟩
  | .array elements => .list (ofElements elements)
  | .object [(some name, .null)] => .choice name
  | .object members => .table (ofMembers members)

def ofElements : List Json.Node → List ConfigDocument
  | [] => []
  | node :: rest => ofJson node :: ofElements rest

def ofMembers : List (Option String × Json.Node) → List (Option String × ConfigDocument)
  | [] => []
  | (key, node) :: rest => (key, ofJson node) :: ofMembers rest

end

/-! ## YAML documents -/

def digitIn? (base : Nat) (c : Char) : Option Nat := do
  let digit ← hexValue? c
  if digit < base then return digit else none

def numberIn? (base : Nat) (digits : List Char) : Option Nat := do
  let values ← digits.mapM (digitIn? base)
  if values.isEmpty then none
  else
    let number := values.foldl (fun number digit => base * number + digit) 0
    if number ≤ greatestNumber then return number else none

/-- The number of a plain scalar: decimal without zeros before it, or in another base after its
mark. -/
def numberOfPlain? (text : String) : Option Nat :=
  let unsigned := match text.toList with
    | '+' :: rest => rest
    | rest => rest
  match unsigned with
  | '0' :: 'x' :: digits => numberIn? 16 digits
  | '0' :: 'o' :: digits => numberIn? 8 digits
  | '0' :: 'b' :: digits => numberIn? 2 digits
  | '0' :: _ :: _ => none
  | digits => numberIn? 10 digits

mutual

/-- The tree of a YAML document. Quotes around nothing are a text, not an absent value. -/
def ofYaml : Yaml.Node → ConfigDocument
  | .scalar text plain =>
    .scalar ⟨some text, if plain then numberOfPlain? text else none, plain && text.isEmpty⟩
  | .sequence _ => unfit
  | .mapping entries => .table (ofEntries entries)

def ofEntries : List (Yaml.Node × Yaml.Node) → List (Option String × ConfigDocument)
  | [] => []
  | (.scalar key _, node) :: rest => (some key, ofYaml node) :: ofEntries rest
  | (_, node) :: rest => (none, ofYaml node) :: ofEntries rest

end

def absent : ConfigDocument := .scalar ⟨some "", none, true⟩

def parse? (kind : DocumentKind) (text : String) : Option ConfigDocument :=
  match kind with
  | .json => (Json.parse? text).map ofJson
  | .yaml => (Yaml.parse? text).map fun node => (node.map ofYaml).getD absent

/-! ## Parts -/

def text? : ConfigDocument → Option String
  | .scalar value => value.text
  | _ => none

def number? (greatest : Nat) : ConfigDocument → Option Nat
  | .scalar value =>
    value.number.bind fun number => if number ≤ greatest then some number else none
  | _ => none

def byte? (document : ConfigDocument) : Option UInt8 :=
  (document.number? 0xFF).map UInt8.ofNat

def choice? : ConfigDocument → Option String
  | .scalar value => value.text
  | .choice name => some name
  | _ => none

/-- The part that is known by some names. Several parts for them are too many. -/
def partNamed? (names : List String) (entries : List (Option String × ConfigDocument)) :
    Option (Option ConfigDocument) :=
  match entries.filter fun (key, _) => key.any names.contains with
  | [] => some none
  | [(_, part)] => some (some part)
  | _ => none

/-- The parts of a document with named parts, each known by some names, or given in their order.
Parts of other names do not matter. -/
def parts? (names : List (List String)) : ConfigDocument → Option (List (Option ConfigDocument))
  | .scalar value =>
    if value.isAbsent then some (names.map fun _ => none) else none
  | .list items =>
    if items.length ≤ names.length then
      some (items.map some ++ List.replicate (names.length - items.length) none)
    else none
  | .table entries =>
    if entries.all (·.1.isSome) then names.mapM (partNamed? · entries) else none
  | .choice name =>
    names.mapM (partNamed? · [(some name, unfit)])

def valueOr {α : Type} (standard : α) (read : ConfigDocument → Option α) :
    Option ConfigDocument → Option α
  | none => some standard
  | some part => read part

end ConfigDocument

end HeatingBus
