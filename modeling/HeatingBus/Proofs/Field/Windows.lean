import HeatingBus.Message.Basic

/-!
# Fields under windows

What becomes of a field when a window of bytes is written over the buffer that holds it. A window
that does not touch the field leaves its bytes alone, a window that covers it replaces all of them,
and only a window that cuts it mixes old bytes with new ones.
-/

namespace HeatingBus

/-! ## Overwritten bytes -/

/-- A byte after an overwrite comes from the update inside of the window and from the old bytes
elsewhere. -/
theorem getElem?_overwrite {buffer update : Bytes} {offset : Nat}
    (fits : offset + update.length ≤ buffer.length) (index : Nat) :
    (overwrite buffer update offset)[index]? =
      if offset ≤ index ∧ index < offset + update.length then update[index - offset]?
      else buffer[index]? := by
  have front : (buffer.take offset).length = offset := by
    rw [List.length_take]
    omega
  -- The result has three parts: old bytes, the update, and old bytes again.
  by_cases before : index < offset
  · have outside : ¬ (offset ≤ index ∧ index < offset + update.length) := by omega
    rw [if_neg outside, overwrite, List.append_assoc, List.getElem?_append_left (by omega),
      List.getElem?_take_of_lt before]
  · rw [overwrite, List.append_assoc, List.getElem?_append_right (by omega), front]
    by_cases inside : index < offset + update.length
    · rw [if_pos ⟨by omega, inside⟩, List.getElem?_append_left (by omega)]
    · rw [if_neg (by omega), List.getElem?_append_right (by omega), List.getElem?_drop]
      congr 1
      omega

/-- The bytes of a window after an overwrite are those of the update. -/
theorem take_drop_overwrite_of_within {buffer update : Bytes} {offset position length : Nat}
    (fits : offset + update.length ≤ buffer.length) (starts : offset ≤ position)
    (ends : position + length ≤ offset + update.length) :
    ((overwrite buffer update offset).drop position).take length =
      (update.drop (position - offset)).take length := by
  apply List.ext_getElem?
  intro index
  by_cases short : index < length
  · rw [List.getElem?_take_of_lt short, List.getElem?_take_of_lt short, List.getElem?_drop,
      List.getElem?_drop, getElem?_overwrite fits, if_pos ⟨by omega, by omega⟩]
    congr 1
    omega
  · rw [List.getElem?_take_eq_none (by omega), List.getElem?_take_eq_none (by omega)]

/-- The bytes apart from a window stay as they were. -/
theorem take_drop_overwrite_of_apart {buffer update : Bytes} {offset position length : Nat}
    (fits : offset + update.length ≤ buffer.length)
    (apart : position + length ≤ offset ∨ offset + update.length ≤ position) :
    ((overwrite buffer update offset).drop position).take length =
      (buffer.drop position).take length := by
  apply List.ext_getElem?
  intro index
  by_cases short : index < length
  · rw [List.getElem?_take_of_lt short, List.getElem?_take_of_lt short, List.getElem?_drop,
      List.getElem?_drop, getElem?_overwrite fits, if_neg (by omega)]
  · rw [List.getElem?_take_eq_none (by omega), List.getElem?_take_eq_none (by omega)]

namespace Field

/-! ## Places of windows -/

/-- Whether the `count` bytes from `offset` on hold a part of a field, but not all of it. -/
def isCutBy (field : Field) (offset count : Nat) : Bool :=
  field.touches offset count && !field.liesWithin offset count

theorem liesWithin_iff {field : Field} {offset count : Nat} :
    field.liesWithin offset count = true ↔
      offset ≤ field.position ∧ field.position + field.length ≤ offset + count := by
  simp only [liesWithin, Bool.and_eq_true, decide_eq_true_eq]
  rfl

theorem touches_eq_false_iff {field : Field} {offset count : Nat} :
    field.touches offset count = false ↔
      field.position + field.length ≤ offset ∨ offset + count ≤ field.position := by
  simp only [touches, Bool.and_eq_false_iff, decide_eq_false_iff_not, Nat.not_lt]
  rfl

/-- A field of one byte is covered by whatever touches it. -/
theorem isCutBy_of_length_eq_one {field : Field} (single : field.length = 1)
    (offset count : Nat) : field.isCutBy offset count = false := by
  cases touched : field.touches offset count with
  | false => simp [isCutBy, touched]
  | true =>
    have meets : ¬ (field.position + field.length ≤ offset ∨ offset + count ≤ field.position) :=
      fun apart => by simp [touches_eq_false_iff.mpr apart] at touched
    have covered : field.liesWithin offset count = true := liesWithin_iff.mpr (by omega)
    simp [isCutBy, covered]

/-! ## Bytes of a field -/

/-- A window that covers a field gives it new bytes throughout. -/
theorem bytesIn?_overwrite_of_liesWithin {field : Field} {buffer update : Bytes} {offset : Nat}
    (fits : offset + update.length ≤ buffer.length)
    (covered : field.liesWithin offset update.length = true) :
    field.bytesIn? (overwrite buffer update offset) =
      some ((update.drop (field.position - offset)).take field.length) := by
  obtain ⟨starts, ends⟩ := liesWithin_iff.mp covered
  rw [bytesIn?, length_overwrite fits, if_pos (by rw [finish]; omega),
    take_drop_overwrite_of_within fits starts ends]

/-- A window that does not touch a field leaves its bytes alone. -/
theorem bytesIn?_overwrite_of_not_touches {field : Field} {buffer update : Bytes} {offset : Nat}
    (fits : offset + update.length ≤ buffer.length)
    (untouched : field.touches offset update.length = false) :
    field.bytesIn? (overwrite buffer update offset) = field.bytesIn? buffer := by
  rw [bytesIn?, bytesIn?, length_overwrite fits,
    take_drop_overwrite_of_apart fits (touches_eq_false_iff.mp untouched)]

/-! ## Values of a field -/

/-- What a field decodes to hangs on its own bytes and on the length of the buffer alone. -/
theorem decode_congr {field : Field} {buffer other : Bytes}
    (same : field.bytesIn? buffer = field.bytesIn? other)
    (sameLength : buffer.length = other.length) : field.decode buffer = field.decode other := by
  rw [decode, decode, same, sameLength]

/-- A window that does not touch a field leaves its value alone. -/
theorem decode_overwrite_of_not_touches {field : Field} {buffer update : Bytes} {offset : Nat}
    (fits : offset + update.length ≤ buffer.length)
    (untouched : field.touches offset update.length = false) :
    field.decode (overwrite buffer update offset) = field.decode buffer :=
  decode_congr (bytesIn?_overwrite_of_not_touches fits untouched) (length_overwrite fits)

/-- A window that covers a field without a difference leaves its value alone. The other bits of the
byte of a boolean field may have changed, so its bytes need not be the same. -/
theorem decode_overwrite_of_not_differs {field : Field} {buffer update : Bytes} {offset : Nat}
    (fits : offset + update.length ≤ buffer.length)
    (covered : field.liesWithin offset update.length = true)
    (same : field.differs update offset buffer = false) :
    field.decode (overwrite buffer update offset) = field.decode buffer := by
  have incoming := bytesIn?_overwrite_of_liesWithin fits covered
  have ends : field.finish ≤ buffer.length := Nat.le_trans (liesWithin_iff.mp covered).2 fits
  have stored : field.bytesIn? buffer = some ((buffer.drop field.position).take field.length) :=
    if_pos ends
  simp only [differs, covered, if_true, stored] at same
  cases kind : field.kind with
  | boolean bit =>
    -- Here only the bits are the same, and the bit is all that is decoded.
    simp only [kind, bne_eq_false_iff_eq] at same
    simp only [decode, incoming, stored, kind, same]
  | integer _ _ | flag _ | date | dateTime | text =>
    simp only [kind, bne_eq_false_iff_eq] at same
    apply decode_congr _ (length_overwrite fits)
    rw [incoming, stored, same]

end Field

end HeatingBus
