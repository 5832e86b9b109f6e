import HeatingBus.Proofs.Message.Apart

/-!
# Split updates

An update that arrives in two pieces does the same as the whole of it, as long as no field has bytes
on both sides of the cut: the message is the same afterwards, and each field that the whole update
reports is reported by one of the pieces.
-/

namespace HeatingBus

/-- Whether a field has bytes on both sides of a place. -/
def Field.IsSplitAt (field : Field) (place : Nat) : Prop :=
  field.position < place ∧ place < field.finish

instance (field : Field) (place : Nat) : Decidable (field.IsSplitAt place) :=
  inferInstanceAs (Decidable (_ ∧ _))

/-! ## Pieces -/

section
variable {first second buffer : Bytes} {offset : Nat} {field : Field}

/-- Two windows that are written one behind the other are written as one. -/
theorem overwrite_append (fits : offset ≤ buffer.length) :
    overwrite (overwrite buffer first offset) second (offset + first.length) =
      overwrite buffer (first ++ second) offset := by
  have front : (buffer.take offset ++ first).length = offset + first.length := by
    rw [List.length_append, List.length_take, Nat.min_eq_left fits]
  rw [overwrite, overwrite, List.take_left' front, List.drop_append,
    List.drop_eq_nil_of_le (by omega), front, Nat.add_sub_cancel_left, List.drop_drop, overwrite,
    List.length_append, ← Nat.add_assoc, List.append_assoc _ first second, List.nil_append]

theorem isApart_pieces (first second : Bytes) (offset : Nat) :
    (Window.mk first offset).IsApart ⟨second, offset + first.length⟩ :=
  fun _ held heldToo => Nat.not_le_of_lt held.2 heldToo.1

/-- What covers a field is the whole update or the piece on its side of the cut. -/
theorem liesWithin_append (whole : ¬ field.IsSplitAt (offset + first.length)) :
    field.liesWithin offset (first ++ second).length =
      (field.liesWithin offset first.length ||
        field.liesWithin (offset + first.length) second.length) := by
  rw [Field.IsSplitAt, Field.finish] at whole
  rw [Bool.eq_iff_iff, Bool.or_eq_true, Field.liesWithin_iff, Field.liesWithin_iff,
    Field.liesWithin_iff, List.length_append]
  omega

theorem differs_append_left (covered : field.liesWithin offset first.length = true) :
    field.differs (first ++ second) offset buffer = field.differs first offset buffer := by
  obtain ⟨starts, ends⟩ := Field.liesWithin_iff.mp covered
  have coveredToo : field.liesWithin offset (first ++ second).length = true :=
    Field.liesWithin_iff.mpr ⟨starts, by rw [List.length_append]; omega⟩
  have incoming : ((first ++ second).drop (field.position - offset)).take field.length =
      (first.drop (field.position - offset)).take field.length := by
    rw [List.drop_append_of_le_length (by omega),
      List.take_append_of_le_length (by rw [List.length_drop]; omega)]
  rw [Field.differs, Field.differs, if_pos covered, if_pos coveredToo, incoming]

theorem differs_append_right
    (covered : field.liesWithin (offset + first.length) second.length = true) :
    field.differs (first ++ second) offset buffer =
      field.differs second (offset + first.length) buffer := by
  obtain ⟨starts, ends⟩ := Field.liesWithin_iff.mp covered
  have coveredToo : field.liesWithin offset (first ++ second).length = true :=
    Field.liesWithin_iff.mpr ⟨by omega, by rw [List.length_append]; omega⟩
  have incoming : ((first ++ second).drop (field.position - offset)).take field.length =
      (second.drop (field.position - (offset + first.length))).take field.length := by
    rw [List.drop_append, List.drop_eq_nil_of_le (by omega), List.nil_append, Nat.sub_sub]
  rw [Field.differs, Field.differs, if_pos covered, if_pos coveredToo, incoming]

end

namespace Message

section
variable {message : Message} {first second : Bytes} {offset index : Nat} {field : Field}

/-- The whole update reports a field exactly if one of the pieces would. -/
theorem reports_append
    (whole : ∀ field ∈ message.layout.fields, ¬ field.IsSplitAt (offset + first.length)) :
    message.reports (first ++ second) offset index =
      (message.reports first offset index ||
        message.reports second (offset + first.length) index) := by
  cases declared : message.layout.fields[index]? with
  | none => simp [reports, declared]
  | some field =>
    obtain ⟨reading, known⟩ := exists_reading declared
    have uncut := whole field (List.mem_of_getElem? declared)
    rw [reports_eq declared known, reports_eq declared known, reports_eq declared known,
      liesWithin_append uncut]
    -- A field that is not split lies on one side of the cut, and only the piece there can cover it.
    cases front : field.liesWithin offset first.length with
    | true =>
      have back : field.liesWithin (offset + first.length) second.length = false :=
        ((isApart_pieces first second offset).spares front).covers_eq_false
          (length_of_declared declared)
      rw [differs_append_left front, back]
      simp
    | false =>
      cases back : field.liesWithin (offset + first.length) second.length with
      | true => simp [differs_append_right back]
      | false => simp

theorem fitsInto_pieces {layout : MessageLayout}
    (fits : (Window.mk (first ++ second) offset).FitsInto layout) :
    (Window.mk first offset).FitsInto layout ∧
      (Window.mk second (offset + first.length)).FitsInto layout := by
  have room : offset + (first ++ second).length ≤ layout.length := fits
  rw [List.length_append, ← Nat.add_assoc] at room
  exact ⟨Nat.le_trans (Nat.le_add_right _ _) room, room⟩

theorem absorb_append (fits : (Window.mk (first ++ second) offset).FitsInto message.layout)
    (whole : ∀ field ∈ message.layout.fields, ¬ field.IsSplitAt (offset + first.length)) :
    (message.absorb ⟨first, offset⟩).absorb ⟨second, offset + first.length⟩ =
      message.absorb ⟨first ++ second, offset⟩ := by
  obtain ⟨front, back⟩ := fitsInto_pieces fits
  have later : (Window.mk second (offset + first.length)).FitsInto
      (message.absorb ⟨first, offset⟩).layout := by rwa [layout_absorb]
  have buffer : ((message.absorb ⟨first, offset⟩).absorb ⟨second, offset + first.length⟩).buffer =
      (message.absorb ⟨first ++ second, offset⟩).buffer := by
    rw [buffer_absorb later, buffer_absorb front, buffer_absorb fits]
    exact overwrite_append (Nat.le_trans (Nat.le_add_right _ _) (room_of_fits front))
  refine eq_of_parts (by simp) buffer fun index field declared => ?_
  rw [layout_absorb, layout_absorb] at declared
  obtain ⟨reading, known⟩ := exists_reading declared
  rw [getElem?_readings_absorb_absorb (isApart_pieces first second offset) front back declared known,
    getElem?_readings_absorb fits declared known, buffer, reports_append whole]

/-- An update that fits may come in two pieces if no field is split by the cut: the message is the
same afterwards, and each field that the whole update reports is reported by exactly one of the
pieces. -/
theorem parse_append (message : Message) (first second : Bytes) (offset : Nat)
    (fits : offset + (first ++ second).length ≤ message.layout.length)
    (whole : ∀ field ∈ message.layout.fields, ¬ field.IsSplitAt (offset + first.length)) :
    ∃ joined front back,
      message.parse (first ++ second) offset = .ok joined ∧
      message.parse first offset = .ok front ∧
      front.message.parse second (offset + first.length) = .ok back ∧
      back.message = joined.message ∧
      (∀ index, index ∈ joined.changed ↔ index ∈ front.changed ∨ index ∈ back.changed) ∧
      ∀ index ∈ front.changed, index ∉ back.changed := by
  have joined : (Window.mk (first ++ second) offset).FitsInto message.layout := fits
  obtain ⟨front, back⟩ := fitsInto_pieces joined
  have later : (Window.mk second (offset + first.length)).FitsInto
      (message.absorb ⟨first, offset⟩).layout := by rwa [layout_absorb]
  have apart := isApart_pieces first second offset
  have reports : ∀ index, (message.absorb ⟨first, offset⟩).reports second (offset + first.length)
      index = message.reports second (offset + first.length) index :=
    fun _ => reports_absorb_of_apart apart front
  have parsed := message.parse_of_fits front
  rw [← absorb_of_fits front] at parsed
  refine ⟨_, _, _, message.parse_of_fits joined, parsed, parse_of_fits _ later, ?_,
    fun index => ?_, fun index reported reportedToo => ?_⟩
  · rw [← absorb_of_fits later, ← absorb_of_fits joined]
    exact absorb_append joined whole
  · rw [mem_changedBy_iff, mem_changedBy_iff, mem_changedBy_iff, reports, ← Bool.or_eq_true,
      reports_append whole]
  · rw [mem_changedBy_iff] at reported reportedToo
    rw [reports, not_reports_of_apart apart reported] at reportedToo
    cases reportedToo

end

/-- A message with the time arrives in two pieces, cut behind the timestamp. The timestamp is
reported by the first of them, the day of the week and the bits of the clock by the second. -/
theorem parse_append_of_clockTime :
    let message := Message.new clockTime
    let first : Bytes := [25, 6, 14, 1, 30, 5]
    let second : Bytes := [3, 0x03]
    0 + (first ++ second).length ≤ message.layout.length ∧
      (∀ field ∈ message.layout.fields, ¬ field.IsSplitAt (0 + first.length)) ∧
      ∃ joined front back,
        message.parse (first ++ second) 0 = .ok joined ∧
        message.parse first 0 = .ok front ∧ front.changed = [0] ∧
        front.message.parse second (0 + first.length) = .ok back ∧
        back.message = joined.message ∧
        ∀ index, index ∈ joined.changed ↔ index = 0 ∨ index ∈ back.changed := by
  intro message first second
  have fits : 0 + (first ++ second).length ≤ message.layout.length := by decide
  have whole : ∀ field ∈ message.layout.fields, ¬ field.IsSplitAt (0 + first.length) := by decide
  have reported : message.changedBy first 0 = [0] := by decide +kernel
  obtain ⟨joined, front, back, parsed, parsedFirst, parsedSecond, same, changed, _⟩ :=
    parse_append message first second 0 fits whole
  obtain ⟨_, rfl⟩ := parse_eq_ok_iff.mp parsedFirst
  refine ⟨fits, whole, joined, _, back, parsed, parsedFirst, reported, parsedSecond, same, ?_⟩
  simpa [reported] using changed

end Message

end HeatingBus
