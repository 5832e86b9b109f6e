import HeatingBus.Proofs.Decimal.Digits
import HeatingBus.Proofs.Json.Texts

/-!
# Documents are read as they were written

The parts of which the documents of values are made: words, integers, texts, and objects of such
parts. Each is read as the node that it was written for, and the reading goes on behind it.
-/

namespace HeatingBus.Json

open HeatingBus.Text Decimal

variable {fuel : Nat} {rest written : List Char} {node : Node}

/-- Whether a part of a document is read as a node, whatever follows it. -/
def Reads (fuel : Nat) (written : List Char) (node : Node) : Prop :=
  ∀ rest, readNode? fuel (written ++ rest) = some (node, rest)

/-! ## Words and texts -/

theorem afterWord?_append (word : String) (rest : List Char) :
    afterWord? word (word.toList ++ rest) = some rest := by
  have inFront : word.toList.isPrefixOf (word.toList ++ rest) = true := by simp
  rw [afterWord?, if_pos inFront, ← String.length_toList, List.drop_left]

theorem reads_bool (fuel : Nat) (value : Bool) :
    Reads (fuel + 1) (if value then "true" else "false").toList (.bool value) := by
  intro rest
  cases value with
  | false =>
    have word := afterWord?_append "alse" rest
    simp_all [readNode?, dropSpaces, isSpace]
  | true =>
    have word := afterWord?_append "rue" rest
    simp_all [readNode?, dropSpaces, isSpace]

theorem reads_quotedChars (fuel : Nat) (text : String) :
    Reads (fuel + 1) (quotedChars text.toList) (.text (some text)) := by
  intro rest
  simp [quotedChars, readNode?, dropSpaces, isSpace, readText?_flatMap]

/-! ## Integers -/

def integerLiteral (value : Int) : NumberLiteral :=
  ⟨decide (value < 0), Nat.toDigits 10 value.natAbs, none, none⟩

theorem integer?_integerLiteral {value : Int} (least : -0x8000000000000000 ≤ value)
    (limit : value < significandLimit) : (integerLiteral value).integer? = some value := by
  simp only [integerLiteral, NumberLiteral.integer?, digitsValue_toDigits]
  by_cases negative : value < 0
  · have fits : 0 < value.natAbs ∧ value.natAbs ≤ 0x8000000000000000 := by omega
    have size : -(value.natAbs : Int) = value := by omega
    simp only [negative, fits, size, and_self, decide_true, if_true, Option.isSome_none,
      Bool.false_eq_true, or_self, if_false]
  · have fits : value.natAbs < significandLimit := by omega
    have size : (value.natAbs : Int) = value := by omega
    simp only [negative, fits, size, decide_false, if_true, Option.isSome_none,
      Bool.false_eq_true, or_self, if_false]

theorem toList_toString_of_nonneg {value : Int} (nonneg : 0 ≤ value) :
    (toString value).toList = Nat.toDigits 10 value.natAbs := by
  rw [Int.toString_eq_repr, Int.repr_eq_if, if_pos nonneg, Nat.toList_repr]
  congr 1
  omega

theorem toList_toString_of_neg {value : Int} (negative : value < 0) :
    (toString value).toList = '-' :: Nat.toDigits 10 value.natAbs := by
  rw [Int.toString_eq_repr, Int.repr_eq_if, if_neg (by omega), String.toList_append,
    Nat.toList_repr]
  have size : (-value).toNat = value.natAbs := by omega
  rw [size]
  rfl

/-- No number starts with a zero and has further digits. -/
theorem readWhole?_toDigits (number : Nat) :
    readWhole? (Nat.toDigits 10 number) = some (Nat.toDigits 10 number, []) := by
  have split := splitDigits_append_of_startsNoDigit (areDigits_toDigits number) startsNoDigit_nil
  rw [List.append_nil] at split
  rw [readWhole?, split]
  rcases Nat.eq_zero_or_pos number with rfl | positive
  · rfl
  · obtain ⟨c, others, digits, _⟩ := exists_cons_toDigits number
    have first := head?_toDigits_ne positive
    rw [digits] at first ⊢
    have notZero : c ≠ '0' := by simpa using first
    simp [notZero]

theorem readNumber?_toString (value : Int) :
    readNumber? (toString value).toList = some (integerLiteral value, []) := by
  have whole := readWhole?_toDigits value.natAbs
  by_cases negative : value < 0
  · rw [toList_toString_of_neg negative]
    simp [readNumber?, whole, readFraction?, readExponentPart?, integerLiteral, negative]
  · obtain ⟨c, others, digits, digit⟩ := exists_cons_toDigits value.natAbs
    rw [toList_toString_of_nonneg (by omega)]
    rw [digits] at whole ⊢
    simp [readNumber?, whole, readFraction?, readExponentPart?, integerLiteral, negative, digits,
      ne_of_isDigit digit '-' rfl]

/-- What starts with a digit or a minus is read as a number. -/
theorem readNode?_number {c : Char} (start : c.isDigit = true ∨ c = '-') :
    readNode? (fuel + 1) (c :: rest) =
      (readNumber? (c :: rest)).map fun (literal, remaining) => (.number literal, remaining) := by
  -- No other node starts with a digit or a minus, and neither does a space.
  have ne (mark : Char) (other : mark.isDigit = false) (notMinus : mark ≠ '-') : c ≠ mark := by
    rcases start with digit | rfl
    · exact ne_of_isDigit digit mark other
    · exact notMinus.symm
  have space : isSpace c = false := by
    simp [isSpace, ne ' ' rfl, ne '\n' rfl, ne '\t' rfl, ne '\r' rfl]
  simp [readNode?, dropSpaces, space, ne 'n' rfl, ne 't' rfl, ne 'f' rfl, ne '"' rfl, ne '[' rfl,
    ne '\x7b' rfl]

theorem readNode?_toString (fuel : Nat) (value : Int) :
    readNode? (fuel + 1) (toString value).toList = some (.number (integerLiteral value), []) := by
  have read := readNumber?_toString value
  by_cases negative : value < 0
  · rw [toList_toString_of_neg negative] at read ⊢
    rw [readNode?_number (.inr rfl), read]
    rfl
  · rw [toList_toString_of_nonneg (by omega)] at read ⊢
    obtain ⟨c, others, digits, digit⟩ := exists_cons_toDigits value.natAbs
    rw [digits] at read ⊢
    rw [readNode?_number (.inl digit), read]
    rfl

/-! ## Objects -/

theorem readMembers?_last (key : String) (rest : List Char) (reads : Reads fuel written node) :
    readMembers? (fuel + 1) (quotedChars key.toList ++ ':' :: (written ++ '\x7d' :: rest)) =
      some ([(some key, node)], rest) := by
  have value := reads ('\x7d' :: rest)
  simp [readMembers?, quotedChars, afterMark?, dropSpaces, isSpace, readText?_flatMap, value]

theorem readMembers?_next (key : String) {members : List (Option String × Node)}
    {text : List Char} (reads : Reads fuel written node)
    (others : readMembers? fuel text = some (members, rest)) :
    readMembers? (fuel + 1) (quotedChars key.toList ++ ':' :: (written ++ ',' :: text)) =
      some ((some key, node) :: members, rest) := by
  have value := reads (',' :: text)
  simp [readMembers?, quotedChars, afterMark?, dropSpaces, isSpace, readText?_flatMap, value,
    others]

/-- The object whose members stand between the braces. -/
theorem readNode?_object {members : List (Option String × Node)} {text : List Char}
    (starts : text.head? = some '"') (read : readMembers? fuel text = some (members, rest)) :
    readNode? (fuel + 1) ('\x7b' :: text) = some (.object members, rest) := by
  obtain ⟨others, rfl⟩ := List.head?_eq_some_iff.mp starts
  simp [readNode?, dropSpaces, isSpace, afterMark?, read]

/-! ## Whole documents -/

theorem readNode?_nil (fuel : Nat) : readNode? fuel [] = none := by
  cases fuel <;> simp [readNode?, dropSpaces, readNumber?, readWhole?, splitDigits]

/-- The fuel of a document allows for the members of an object with two of them. -/
theorem parse?_of_readNode? {document : String}
    (read : ∀ fuel, readNode? (fuel + 4) document.toList = some (node, [])) :
    parse? document = some node := by
  -- An empty document is read as nothing, so there is a character to pay for the fourth step.
  have long : 0 < document.toList.length := by
    rw [List.length_pos_iff]
    intro empty
    have first := read 0
    simp [empty, readNode?_nil] at first
  have enough : 2 * document.toList.length + 2 = 2 * (document.toList.length - 1) + 4 := by omega
  rw [parse?, enough, read]
  rfl

end HeatingBus.Json
