/-!
# Places in a YAML document

A cursor is what is left of a document together with the line and the column reached. This module
moves cursors over the gaps between the words of a scalar and over the blanks and comments between
tokens. Columns count characters; the length of a key is limited in bytes, so a cursor counts those
too.
-/

namespace HeatingBus.Yaml

/-! ## Characters -/

def isBreak (c : Char) : Bool :=
  c = '\n' || c = '\u2028' || c = '\u2029'

def isBlank (c : Char) : Bool :=
  c = ' ' || c = '\t'

def endsHere : List Char → Bool
  | [] => true
  | c :: _ => isBlank c || isBreak c

def isAllowed (c : Char) : Bool :=
  let code := c.toNat
  c = '\t' || c = '\n' || (0x20 ≤ code && code ≤ 0x7E) || (0xA0 ≤ code && code ≤ 0xFFFD) ||
    0x10000 ≤ code

/-- The byte order mark. At the start of a line it does not belong to a token. -/
def byteOrderMark : Char := '\ufeff'

def byteCount (text : List Char) : Nat :=
  text.foldl (fun count character => count + character.utf8Size) 0

/-- A document with one character for every end of a line. -/
def joinBreaks : List Char → List Char
  | [] => []
  | '\r' :: '\n' :: rest => '\n' :: joinBreaks rest
  | c :: rest => (if c = '\r' ∨ c = '\u0085' then '\n' else c) :: joinBreaks rest

/-! ## Cursors -/

structure Cursor where
  /-- What is left of the document. -/
  rest : List Char
  line : Nat
  /-- The number of characters before in the line. -/
  column : Nat
  /-- The number of bytes before in the line. -/
  byteColumn : Nat
  deriving Repr, DecidableEq

namespace Cursor

def start (text : List Char) : Cursor := ⟨text, 0, 0, 0⟩

def advance (cursor : Cursor) (count : Nat) : Cursor :=
  { cursor with
    rest := cursor.rest.drop count
    column := cursor.column + count
    byteColumn := cursor.byteColumn + byteCount (cursor.rest.take count) }

def nextLine (cursor : Cursor) : Cursor :=
  { rest := cursor.rest.drop 1, line := cursor.line + 1, column := 0, byteColumn := 0 }

def isAtMark (cursor : Cursor) (mark : Char) : Bool :=
  cursor.column = 0 && cursor.rest.take 3 = [mark, mark, mark] && endsHere (cursor.rest.drop 3)

def isAtDocumentMark (cursor : Cursor) : Bool :=
  cursor.isAtMark '-' || cursor.isAtMark '.'

end Cursor

/-! ## Gaps in a scalar -/

structure Gap where
  /-- The blanks before the end of the line. -/
  blanks : List Char
  /-- Whether the gap goes on in another line. -/
  isBroken : Bool
  /-- The first line end. -/
  leading : List Char
  /-- The line ends after the first. -/
  trailing : List Char
  deriving Repr, DecidableEq

namespace Gap

def none : Gap := ⟨[], false, [], []⟩

/-- The gap after a line end that does not count. -/
def escaped : Gap := ⟨[], true, [], []⟩

/-- The gap with one more blank; blanks at the start of a line do not count. -/
def addBlank (gap : Gap) (c : Char) : Gap :=
  if gap.isBroken then gap else { gap with blanks := gap.blanks ++ [c] }

def addBreak (gap : Gap) (c : Char) : Gap :=
  if gap.isBroken then { gap with trailing := gap.trailing ++ [c] }
  else ⟨[], true, [c], []⟩

/-- What a gap stands for: its blanks, or a blank for a single line end, or the empty lines. -/
def folded (gap : Gap) : List Char :=
  if gap.isBroken then
    if gap.leading = ['\n'] then
      if gap.trailing.isEmpty then [' '] else gap.trailing
    else gap.leading ++ gap.trailing
  else gap.blanks

end Gap

def readGap? (limit : Nat) : List Char → Nat → Nat → Nat → Gap → Option (Gap × Cursor)
  | [], line, column, bytes, gap => some (gap, ⟨[], line, column, bytes⟩)
  | c :: rest, line, column, bytes, gap =>
    if isBlank c then
      -- A tab must not take part in the indentation of a line.
      if gap.isBroken ∧ column < limit ∧ c = '\t' then Option.none
      else readGap? limit rest line (column + 1) (bytes + c.utf8Size) (gap.addBlank c)
    else if isBreak c then readGap? limit rest (line + 1) 0 0 (gap.addBreak c)
    else some (gap, ⟨c :: rest, line, column, bytes⟩)

def Cursor.gap? (cursor : Cursor) (limit : Nat) (gap : Gap) : Option (Gap × Cursor) :=
  readGap? limit cursor.rest cursor.line cursor.column cursor.byteColumn gap

/-! ## Between tokens -/

/-- The place of the next token, and whether a key may start there. -/
def nextToken (inFlow inComment keyAllowed : Bool) :
    List Char → Nat → Nat → Nat → Cursor × Bool
  | [], line, column, bytes => (⟨[], line, column, bytes⟩, keyAllowed)
  | c :: rest, line, column, bytes =>
    let passed (isComment : Bool) :=
      nextToken inFlow isComment keyAllowed rest line (column + 1) (bytes + c.utf8Size)
    if isBreak c then nextToken inFlow false (keyAllowed || !inFlow) rest (line + 1) 0 0
    else if inComment ∨ c = '#' then passed true
    -- A tab is a blank where no key may start, and a byte order mark is one at the start of a line.
    else if c = ' ' ∨ (c = '\t' ∧ (inFlow ∨ !keyAllowed)) ∨
        (c = byteOrderMark ∧ column = 0) then
      passed false
    else (⟨c :: rest, line, column, bytes⟩, keyAllowed)

end HeatingBus.Yaml
