import HeatingBus.Yaml.Scalar

/-!
# Tokens of YAML documents

The structure that a document shows by indentation and marks is made explicit: every block
collection has a start and an end among the tokens, and every key is announced. A key without a mark
before it is known only by the colon after it, so its announcement is put before tokens that are
already there.

Anchors, tags, directives and block scalars are not taken.
-/

namespace HeatingBus.Yaml

inductive Token where
  | documentStart
  | documentEnd
  | blockSequenceStart
  | blockMappingStart
  | blockEnd
  | blockEntry
  | flowSequenceStart
  | flowSequenceEnd
  | flowMappingStart
  | flowMappingEnd
  | flowEntry
  | key
  | value
  | scalar (text : String) (plain : Bool)
  deriving Repr, DecidableEq

def keyLimit : Nat := 1024

structure PossibleKey where
  /-- The number of tokens before it. -/
  place : Nat
  cursor : Cursor
  /-- Whether nothing but a key can stand there. -/
  isRequired : Bool

structure Scan where
  cursor : Cursor
  /-- The columns of the open block collections, the innermost first. -/
  indents : List Nat
  /-- The possible key of each level, the innermost first; all levels but the last are in brackets.
  -/
  keys : List (Option PossibleKey)
  /-- Whether a key may start here. -/
  keyAllowed : Bool
  tokens : List Token

namespace Scan

def start (text : List Char) : Scan := ⟨.start text, [], [none], true, []⟩

def inFlow (scan : Scan) : Bool := 1 < scan.keys.length

/-- Whether a column is further in than all open block collections. -/
def isDeeper (scan : Scan) (column : Nat) : Bool :=
  scan.indents.head?.all (· < column)

def emit (scan : Scan) (token : Token) : Scan :=
  { scan with tokens := scan.tokens ++ [token] }

def emitAt (scan : Scan) (place : Nat) (token : Token) : Scan :=
  { scan with tokens := scan.tokens.take place ++ token :: scan.tokens.drop place }

/-! ## Block collections -/

/-- Closes the block collections that start further in than a column, or all of them. -/
def closeBlocks (column : Option Nat) (scan : Scan) : Scan :=
  if scan.inFlow then scan
  else
    let closes (indent : Nat) : Bool := column.all (· < indent)
    { scan with
      indents := scan.indents.dropWhile closes
      tokens := scan.tokens ++ (scan.indents.takeWhile closes).map fun _ => Token.blockEnd }

/-- Opens a block collection at a column, unless one is open there or inside of brackets. -/
def openBlock (column place : Nat) (token : Token) (scan : Scan) : Scan :=
  if !scan.inFlow ∧ scan.isDeeper column then
    { scan.emitAt place token with indents := column :: scan.indents }
  else scan

/-! ## Keys -/

def dropKey? (scan : Scan) : Option Scan :=
  match scan.keys with
  | some key :: rest => if key.isRequired then none else some { scan with keys := none :: rest }
  | _ => some scan

def markKey? (scan : Scan) : Option Scan :=
  if scan.keyAllowed then do
    let scan ← scan.dropKey?
    let key : PossibleKey :=
      { place := scan.tokens.length
        cursor := scan.cursor
        isRequired := !scan.inFlow && scan.indents.head? == some scan.cursor.column }
    return { scan with keys := some key :: scan.keys.drop 1 }
  else some scan

def isFresh (scan : Scan) (key : PossibleKey) : Bool :=
  key.cursor.line = scan.cursor.line &&
    scan.cursor.byteColumn ≤ key.cursor.byteColumn + keyLimit

/-! ## Tokens -/

def takeMark (scan : Scan) (count : Nat) (token : Token) (keyAllowed : Bool) : Scan :=
  { scan.emit token with cursor := scan.cursor.advance count, keyAllowed }

def documentMark? (scan : Scan) (token : Token) : Option Scan := do
  let scan ← (scan.closeBlocks none).dropKey?
  return scan.takeMark 3 token false

def openFlow? (scan : Scan) (token : Token) : Option Scan := do
  let scan ← scan.markKey?
  let scan := scan.takeMark 1 token true
  return { scan with keys := none :: scan.keys }

def closeFlow? (scan : Scan) (token : Token) : Option Scan := do
  let scan ← scan.dropKey?
  let scan := scan.takeMark 1 token false
  return if scan.inFlow then { scan with keys := scan.keys.drop 1 } else scan

def flowEntry? (scan : Scan) : Option Scan := do
  return (← scan.dropKey?).takeMark 1 .flowEntry true

def blockEntry? (scan : Scan) : Option Scan := do
  if !scan.inFlow ∧ !scan.keyAllowed then none
  else
    let scan := scan.openBlock scan.cursor.column scan.tokens.length .blockSequenceStart
    return (← scan.dropKey?).takeMark 1 .blockEntry true

def keyMark? (scan : Scan) : Option Scan := do
  if !scan.inFlow ∧ !scan.keyAllowed then none
  else
    let scan := scan.openBlock scan.cursor.column scan.tokens.length .blockMappingStart
    return (← scan.dropKey?).takeMark 1 .key (!scan.inFlow)

/-- The colon of a value whose key is not known by a possible key. -/
def bareValue? (scan : Scan) : Option Scan :=
  if !scan.inFlow ∧ !scan.keyAllowed then none
  else
    let scan := scan.openBlock scan.cursor.column scan.tokens.length .blockMappingStart
    some (scan.takeMark 1 .value (!scan.inFlow))

def valueMark? (scan : Scan) : Option Scan :=
  match scan.keys with
  | some key :: rest =>
    -- The key has been read already, so that its mark has to be put before it.
    if scan.isFresh key then
      let scan := (scan.emitAt key.place .key).openBlock key.cursor.column key.place
        .blockMappingStart
      some { scan.takeMark 1 .value false with keys := none :: rest }
    else if key.isRequired then none
    else scan.bareValue?
  | _ => scan.bareValue?

def quoted? (scan : Scan) (quote : Char) : Option Scan := do
  let scan ← scan.markKey?
  let opened := scan.cursor.advance 1
  let reading ← readQuoted? quote (opened.rest.length + 1) [] opened
  return { scan.emit (.scalar (String.ofList reading.text) false) with
    cursor := reading.cursor, keyAllowed := false }

def startsPlain (inFlow : Bool) : List Char → Bool
  | [] => false
  | c :: rest =>
    if c = '-' then !rest.head?.any isBlank
    else if c = '?' ∨ c = ':' then !inFlow && !endsHere rest
    else !(isBlank c || isBreak c || isFlowMark c || "#&*!|>'\"%@\x60".toList.contains c)

def plain? (scan : Scan) : Option Scan := do
  if startsPlain scan.inFlow scan.cursor.rest then
    let scan ← scan.markKey?
    let indent := (scan.indents.head?.map (· + 1)).getD 0
    let reading ← readPlain? scan.inFlow indent (scan.cursor.rest.length + 1) [] .none scan.cursor
    return { scan.emit (.scalar (String.ofList reading.text) true) with
      cursor := reading.cursor, keyAllowed := reading.atLineStart }
  else none

/-- The scan after the next token, or `none` if no token can start there. -/
def next? (scan : Scan) : Option Scan :=
  match scan.cursor.rest with
  | [] => some scan
  | c :: rest =>
    if scan.cursor.column = 0 ∧ c = '%' then none
    else if scan.cursor.isAtMark '-' then scan.documentMark? .documentStart
    else if scan.cursor.isAtMark '.' then scan.documentMark? .documentEnd
    else if c = '[' then scan.openFlow? .flowSequenceStart
    else if c = '\x7b' then scan.openFlow? .flowMappingStart
    else if c = ']' then scan.closeFlow? .flowSequenceEnd
    else if c = '\x7d' then scan.closeFlow? .flowMappingEnd
    else if c = ',' then scan.flowEntry?
    else if c = '-' ∧ endsHere rest then scan.blockEntry?
    else if c = '?' ∧ (scan.inFlow ∨ endsHere rest) then scan.keyMark?
    else if c = ':' ∧ (scan.inFlow ∨ endsHere rest) then scan.valueMark?
    else if c = '\'' ∨ c = '"' then scan.quoted? c
    else scan.plain?

/-- The scan at the next token, with the block collections closed that end before it. -/
def approach (scan : Scan) : Scan :=
  let (cursor, keyAllowed) := nextToken scan.inFlow false scan.keyAllowed scan.cursor.rest
    scan.cursor.line scan.cursor.column scan.cursor.byteColumn
  { scan with cursor, keyAllowed }.closeBlocks (some cursor.column)

def run? : Nat → Scan → Option Scan
  | 0, _ => none
  | fuel + 1, scan =>
    let scan := scan.approach
    if scan.cursor.rest.isEmpty then (scan.closeBlocks none).dropKey?
    else do run? fuel (← scan.next?)

end Scan

def tokens? (stream : String) : Option (List Token) :=
  let text := joinBreaks stream.toList
  if text.all isAllowed then
    (Scan.run? (text.length + 1) (.start text)).map Scan.tokens
  else none

end HeatingBus.Yaml
