import HeatingBus.Text.Hex
import HeatingBus.Yaml.Cursor

/-!
# Scalars of YAML documents

A scalar is plain or between quotes. Either form may go on over several lines, which are joined by
blanks.
-/

namespace HeatingBus.Yaml

open HeatingBus.Text

structure ScalarReading where
  text : List Char
  /-- Whether the scalar was left at the start of a line. -/
  atLineStart : Bool
  cursor : Cursor
  deriving Repr, DecidableEq

/-! ## Plain scalars -/

def isFlowMark (c : Char) : Bool :=
  c = ',' || c = '[' || c = ']' || c = '\x7b' || c = '\x7d'

/-- The first word of a plain scalar: it ends at a blank, before a colon and a blank, and inside of
brackets at a mark. A colon right before a mark is not allowed there. -/
def plainWord? (inFlow : Bool) : List Char → Option (List Char)
  | [] => some []
  | c :: rest =>
    if isBlank c ∨ isBreak c then some []
    else if c = ':' ∧ inFlow ∧ rest.head?.any (fun next => isFlowMark next || next = '?') then
      none
    else if (c = ':' ∧ endsHere rest) ∨ (inFlow ∧ isFlowMark c) then some []
    else (plainWord? inFlow rest).map (c :: ·)

/-- A plain scalar that goes on after some text and a gap; `fuel` bounds the number of words. -/
def readPlain? (inFlow : Bool) (indent : Nat) :
    Nat → List Char → Gap → Cursor → Option ScalarReading
  | 0, _, _, _ => none
  | fuel + 1, text, gap, cursor =>
    let finished (isBroken : Bool) (cursor : Cursor) := some ⟨text, isBroken, cursor⟩
    if cursor.isAtDocumentMark ∨ cursor.rest.head? = some '#' then finished gap.isBroken cursor
    else do
      let word ← plainWord? inFlow cursor.rest
      if word.isEmpty then finished gap.isBroken cursor
      else
        let text := text ++ gap.folded ++ word
        let cursor := cursor.advance word.length
        if cursor.rest.isEmpty ∨ !endsHere cursor.rest then some ⟨text, false, cursor⟩
        else
          let (next, after) ← cursor.gap? indent .none
          if !inFlow ∧ after.column < indent then some ⟨text, next.isBroken, after⟩
          else readPlain? inFlow indent fuel text next after

/-! ## Quoted scalars -/

def simpleEscape? (letter : Char) : Option Char :=
  match letter with
  | '0' => some '\x00'
  | 'a' => some '\x07'
  | 'b' => some '\x08'
  | 't' | '\t' => some '\t'
  | 'n' => some '\n'
  | 'v' => some '\x0b'
  | 'f' => some '\x0c'
  | 'r' => some '\r'
  | 'e' => some '\x1b'
  | ' ' | '"' | '/' | '\\' => some letter
  | 'N' => some '\u0085'
  | '_' => some '\u00a0'
  | 'L' => some '\u2028'
  | 'P' => some '\u2029'
  | _ => none

def escapeWidth? (letter : Char) : Option Nat :=
  match letter with
  | 'x' => some 2
  | 'u' => some 4
  | 'U' => some 8
  | _ => none

def codedChar? (digits : List Char) : Option Char := do
  let values ← digits.mapM hexValue?
  let code := values.foldl (fun code digit => 16 * code + digit) 0
  if code.isValidChar then return Char.ofNat code else none

/-- An escape: its character and the number of characters it takes. -/
def readEscape? : List Char → Option (Char × Nat)
  | '\\' :: letter :: rest =>
    match escapeWidth? letter with
    | some width =>
      if rest.length < width then none
      else (codedChar? (rest.take width)).map (·, width + 2)
    | none => (simpleEscape? letter).map (·, 2)
  | _ => none

def isEscapedBreak : List Char → Bool
  | '\\' :: c :: _ => isBreak c
  | _ => false

/-- A scalar between quotes of a kind that goes on after some text; `fuel` bounds the number of
characters. -/
def readQuoted? (quote : Char) : Nat → List Char → Cursor → Option ScalarReading
  | 0, _, _ => none
  | fuel + 1, text, cursor =>
    if cursor.isAtDocumentMark then none
    else match cursor.rest with
      | [] => none
      | c :: rest =>
        if isBlank c ∨ isBreak c then do
          let (gap, after) ← cursor.gap? 0 .none
          readQuoted? quote fuel (text ++ gap.folded) after
        else if c = quote then
          if quote = '\'' ∧ rest.head? = some '\'' then
            readQuoted? quote fuel (text ++ ['\'']) (cursor.advance 2)
          else some ⟨text, false, cursor.advance 1⟩
        else if quote = '"' ∧ isEscapedBreak cursor.rest then do
          let (gap, after) ← (cursor.advance 1).nextLine.gap? 0 .escaped
          readQuoted? quote fuel (text ++ gap.folded) after
        else if quote = '"' ∧ c = '\\' then do
          let (escaped, width) ← readEscape? cursor.rest
          readQuoted? quote fuel (text ++ [escaped]) (cursor.advance width)
        else readQuoted? quote fuel (text ++ [c]) (cursor.advance 1)

end HeatingBus.Yaml
