import HeatingBus.Proofs.Calendar.Texts
import HeatingBus.Proofs.Json.Documents
import HeatingBus.Value.Json

/-!
# Values are read back from their documents

A document does not say the type of its value, and a text between quotes is a date if it reads as
one. All values but decimals are read back as they were, except for the texts that read as dates and
the timestamps that no clock shows.
-/

namespace HeatingBus

namespace Value

open Calendar Json

theorem ofJson?_of_readNode? {document : String} {node : Node}
    (read : ∀ fuel, readNode? (fuel + 4) document.toList = some (node, [])) :
    ofJson? document = ofNode? node := by
  rw [ofJson?, parse?_of_readNode? read]
  rfl

/-! ## Numbers and truth values -/

theorem ofJson?_integer (value : Int64) :
    ofJson? (integer value).toJson = some (integer value) := by
  have within : value.toInt < 0x8000000000000000 := value.toInt_lt
  have literal := integer?_integerLiteral value.le_toInt (by rw [significandLimit]; omega)
  rw [toJson, ofJson?_of_readNode? fun fuel => readNode?_toString (fuel + 3) value.toInt]
  simp [ofNode?, isReadable, ofNumber?, literal, Node.depth, within]

theorem ofJson?_bool (value : Bool) : ofJson? (bool value).toJson = some (bool value) := by
  cases value <;> rfl

/-! ## Texts -/

/-- A text between quotes is read as a date if it is the text of one. -/
theorem ofJson?_quotedText (value : String) : ofJson? (quotedText value) = some (ofText value) := by
  have written : (quotedText value).toList = quotedChars value.toList := String.toList_ofList
  have read (fuel : Nat) : readNode? (fuel + 4) (quotedText value).toList =
      some (.text (some value), []) := by
    have read := reads_quotedChars (fuel + 3) value []
    rwa [List.append_nil, ← written] at read
  rw [ofJson?_of_readNode? read]
  simp [ofNode?, isReadable, Node.depth]

theorem ofJson?_date (value : Date) : ofJson? (date value).toJson = some (date value) := by
  rw [toJson, ofJson?_quotedText, ofText, readDate?_text]

/-- A text that reads as a date is read back as that date, any other as itself. -/
theorem ofJson?_text (value : String) : ofJson? (text value).toJson = some (ofText value) :=
  ofJson?_quotedText value

/-! ## Timestamps -/

theorem toList_toJson_dateTime (value : Timestamp) (reservedBit : Bool) :
    (dateTime value reservedBit).toJson.toList =
      '\x7b' :: (quotedChars timestampKey.toList ++ ':' :: (quotedChars value.isoText.toList ++
        ',' :: (quotedChars reservedBitKey.toList ++ ':' ::
          ((if reservedBit then "true" else "false").toList ++ '\x7d' :: [])))) := by
  simp [toJson, quotedText]

theorem ofMembers?_of_keys (written : String) (reservedBit : Bool) :
    ofMembers? [(some timestampKey, .text (some written)), (some reservedBitKey, .bool reservedBit)]
      = (readTimestamp? written).map (.dateTime · reservedBit) := by
  rfl

/-- A timestamp is read back as the one that a clock shows. -/
theorem ofJson?_dateTime (value : Timestamp) (reservedBit : Bool) :
    ofJson? (dateTime value reservedBit).toJson =
      some (dateTime ⟨value.date, value.time.clockTime⟩ reservedBit) := by
  have read (fuel : Nat) : readNode? (fuel + 4) (dateTime value reservedBit).toJson.toList =
      some (.object [(some timestampKey, .text (some value.isoText)),
        (some reservedBitKey, .bool reservedBit)], []) := by
    have last := readMembers?_last reservedBitKey [] (reads_bool fuel reservedBit)
    have first := readMembers?_next timestampKey (reads_quotedChars (fuel + 1) value.isoText) last
    rw [toList_toJson_dateTime]
    exact readNode?_object rfl first
  rw [ofJson?_of_readNode? read]
  simp [ofNode?, isReadable, membersAreReadable, Node.depth, depthOfMembers, greatestDepth,
    ofMembers?_of_keys, readTimestamp?_isoText]

/-! ## Main statement -/

/-- The date that a text is mistaken for; no other value is taken for a date that it is not. -/
def mistakenDate? : Value → Option Date
  | text value => readDate? value
  | _ => none

/-- Whether a timestamp has a time that a clock shows; no other value has one. -/
def HasClockTime : Value → Prop
  | dateTime timestamp _ => timestamp.time.IsClockTime
  | _ => True

/-- All values but decimals are read back from their documents, except for the texts that read as a
date and the timestamps with a leap second within a minute. The texts are read back as the date, and
the timestamps as the second after, with what is left of the fraction. -/
theorem ofJson?_toJson (value : Value) (notDecimal : ∀ number, value ≠ decimal number) :
    (ofJson? value.toJson = some value ↔ value.mistakenDate? = none ∧ value.HasClockTime) ∧
      (∀ day, value.mistakenDate? = some day → ofJson? value.toJson = some (date day)) ∧
      ∀ timestamp reservedBit, value = dateTime timestamp reservedBit → ¬ value.HasClockTime →
        ∃ shown : Timestamp, ofJson? value.toJson = some (dateTime shown reservedBit) ∧
          shown.date = timestamp.date ∧ shown.time.hour = timestamp.time.hour ∧
          shown.time.minute = timestamp.time.minute ∧
          shown.time.second = timestamp.time.second + 1 ∧
          shown.time.nanosecond + nanosPerSecond = timestamp.time.nanosecond := by
  cases value with
  | integer value => simp [ofJson?_integer, mistakenDate?, HasClockTime]
  | decimal number => exact absurd rfl (notDecimal number)
  | bool value => simp [ofJson?_bool, mistakenDate?, HasClockTime]
  | date value => simp [ofJson?_date, mistakenDate?, HasClockTime]
  | dateTime value reservedBit =>
    obtain ⟨date, time⟩ := value
    rw [ofJson?_dateTime]
    refine ⟨?_, fun _ mistaken => (by cases mistaken), ?_⟩
    · simp [mistakenDate?, HasClockTime, TimeOfDay.clockTime_eq_self_iff]
    · rintro _ _ ⟨⟩ hidden
      exact ⟨_, rfl, rfl, TimeOfDay.parts_clockTime hidden⟩
  | text value =>
    rw [ofJson?_text, ofText, mistakenDate?]
    cases readDate? value with
    | none => simp [HasClockTime]
    | some day => simp

def ancientLeapSecond : Timestamp where
  date := ⟨-44, 3, 15, by decide⟩
  time := ⟨23, 59, 59, 1999999999, by decide⟩

def innerLeapSecond : Timestamp where
  date := ⟨2024, 1, 15, by decide⟩
  time := ⟨23, 56, 4, 1333333333, by decide⟩

theorem ofJson?_toJson_ancientLeapSecond :
    (∀ number, dateTime ancientLeapSecond true ≠ decimal number) ∧
      ofJson? (dateTime ancientLeapSecond true).toJson =
        some (dateTime ancientLeapSecond true) ∧
      ofJson? (dateTime innerLeapSecond false).toJson ≠
        some (dateTime innerLeapSecond false) := by
  have notDecimal : ∀ number, dateTime ancientLeapSecond true ≠ decimal number := nofun
  refine ⟨notDecimal, (ofJson?_toJson _ notDecimal).1.mpr ⟨rfl, .inr rfl⟩, fun same => ?_⟩
  have shown : innerLeapSecond.time.IsClockTime :=
    ((ofJson?_toJson (dateTime innerLeapSecond false) nofun).1.mp same).2
  exact absurd shown (by decide)

/-- Not all texts are read back: one that has the form of a date becomes the date. -/
theorem not_ofJson?_toJson_of_date :
    ¬∀ value : Value, (∀ number, value ≠ decimal number) → ofJson? value.toJson = some value := by
  intro all
  have same := all (text "2024-01-15") nofun
  have day : readDate? "2024-01-15" = some ⟨2024, 1, 15, by decide⟩ := by decide
  rw [ofJson?_text, ofText, day] at same
  cases same

end Value

end HeatingBus
