import HeatingBus.Json.Reader
import Mathlib.Tactic.SplitIfs

/-!
# Texts are read as they were written

A character is written as a single unit, which is its code only where no shorter escape exists. No
such code is half of a surrogate pair, so that the units of a text join to the text, whatever it
holds.
-/

namespace HeatingBus.Json

open HeatingBus.Text

variable {c : Char} {rest : List Char}

/-- The unit that the written form of a character is read as. -/
def writtenUnit (c : Char) : TextUnit :=
  if c.toNat < 0x20 ∧ c ∉ ['\x08', '\x0c', '\n', '\r', '\t'] then .code c.toNat else .char c

def withUnit (unit : TextUnit) (read : Option (List TextUnit × List Char)) :
    Option (List TextUnit × List Char) :=
  read.map fun (units, remaining) => (unit :: units, remaining)

/-! ## Reading a unit -/

theorem readUnits?_simpleEscape {letter : Char} (stands : simpleEscape? letter = some c) :
    readUnits? ('\\' :: letter :: rest) = withUnit (.char c) (readUnits? rest) := by
  -- The reading prefers an escaped code, which begins with a letter that is no escape by itself.
  have notCode : letter ≠ 'u' := by
    rintro rfl
    exact nomatch stands
  cases read : readUnits? rest <;> simp [readUnits?, notCode, stands, read, withUnit]

theorem fourDigits?_control : ∀ code < 0x20,
    fourDigits? '0' '0' (Nat.digitChar (code / 16)) (Nat.digitChar (code % 16)) = some code := by
  decide

theorem readUnits?_control (control : c.toNat < 0x20) :
    readUnits? ('\\' :: 'u' :: '0' :: '0' :: Nat.digitChar (c.toNat / 16) ::
      Nat.digitChar (c.toNat % 16) :: rest) = withUnit (.code c.toNat) (readUnits? rest) := by
  rw [readUnits?, fourDigits?_control _ control]
  cases readUnits? rest <;> rfl

theorem readUnits?_plain (quote : c ≠ '"') (backslash : c ≠ '\\') (control : ¬c.toNat < 0x20) :
    readUnits? (c :: rest) = withUnit (.char c) (readUnits? rest) := by
  cases read : readUnits? rest <;> simp [readUnits?, backslash, control, read, withUnit]

/-- Each character is read as one unit, and the reading goes on behind it. -/
theorem readUnits?_escapeChar (c : Char) (rest : List Char) :
    readUnits? (escapeChar c ++ rest) = withUnit (writtenUnit c) (readUnits? rest) := by
  -- One case for each line of `escapeChar`: seven short escapes, a code, the character itself.
  unfold escapeChar
  split_ifs with quote backslash backspace formFeed newLine carriageReturn tab control
  · subst quote
    exact readUnits?_simpleEscape rfl
  · subst backslash
    exact readUnits?_simpleEscape rfl
  · subst backspace
    exact readUnits?_simpleEscape rfl
  · subst formFeed
    exact readUnits?_simpleEscape rfl
  · subst newLine
    exact readUnits?_simpleEscape rfl
  · subst carriageReturn
    exact readUnits?_simpleEscape rfl
  · subst tab
    exact readUnits?_simpleEscape rfl
  · have coded : writtenUnit c = .code c.toNat := by simp [writtenUnit, *]
    rw [coded]
    exact readUnits?_control control
  · have plain : writtenUnit c = .char c := if_neg fun written => control written.1
    rw [plain]
    exact readUnits?_plain quote backslash control

theorem readUnits?_flatMap (text rest : List Char) :
    readUnits? (text.flatMap escapeChar ++ '"' :: rest) = some (text.map writtenUnit, rest) := by
  induction text with
  | nil => rfl
  | cons c text inductionHypothesis =>
    rw [List.flatMap_cons, List.append_assoc, readUnits?_escapeChar, inductionHypothesis]
    rfl

/-! ## Joining units -/

/-- A code below those of the surrogates is a character, whatever unit follows it. -/
theorem joinUnits?_code (low : c.toNat < 0xD800) (units : List TextUnit) :
    joinUnits? (.code c.toNat :: units) = (joinUnits? units).map (c :: ·) := by
  have notHigh : isHighSurrogate c.toNat = false := by simp [isHighSurrogate]; omega
  have notLow : isLowSurrogate c.toNat = false := by simp [isLowSurrogate]; omega
  cases units with
  | nil => simp [joinUnits?, notHigh, notLow]
  | cons unit units => cases unit <;> simp [joinUnits?, notHigh, notLow]

theorem joinUnits?_writtenUnit (c : Char) (units : List TextUnit) :
    joinUnits? (writtenUnit c :: units) = (joinUnits? units).map (c :: ·) := by
  unfold writtenUnit
  split_ifs with control
  · exact joinUnits?_code (by omega) units
  · rw [joinUnits?]

theorem joinUnits?_map_writtenUnit (text : List Char) :
    joinUnits? (text.map writtenUnit) = some text := by
  induction text with
  | nil => rw [List.map_nil, joinUnits?]
  | cons c text inductionHypothesis =>
    rw [List.map_cons, joinUnits?_writtenUnit, inductionHypothesis, Option.map_some]

/-- A written text is read as itself, up to the quote that closes it. -/
theorem readText?_flatMap (text rest : List Char) :
    readText? (text.flatMap escapeChar ++ '"' :: rest) =
      some (some (String.ofList text), rest) := by
  rw [readText?, readUnits?_flatMap]
  simp [joinUnits?_map_writtenUnit]

end HeatingBus.Json
