import HeatingBus.Proofs.Message.Reports

/-!
# Updates apart

Two updates of a message that share no byte, one after the other. Neither of them has a part in what
the other one reports. What covers a field leaves none of its bytes to the other update, so that a
reported field has the value that the buffer decodes to once both of them have come. A field that
both of them cut is reported by neither. So the two may come in either order.
-/

namespace HeatingBus

/-! ## Windows -/

namespace Window

/-- Whether a window brings a byte to a place. -/
def Holds (window : Window) (place : Nat) : Prop :=
  window.offset ≤ place ∧ place < window.offset + window.bytes.length

def IsApart (window other : Window) : Prop :=
  ∀ place, window.Holds place → ¬ other.Holds place

def Spares (window : Window) (field : Field) : Prop :=
  ∀ place, field.position ≤ place → place < field.finish → ¬ window.Holds place

section
variable {window other : Window} {field : Field} {buffer : Bytes}

theorem IsApart.symm (apart : window.IsApart other) : other.IsApart window :=
  fun place held heldToo => apart place heldToo held

/-- A window that covers a field leaves none of its bytes to those apart from it. -/
theorem IsApart.spares (apart : window.IsApart other) (covered : window.covers field = true) :
    other.Spares field := by
  intro place starts ends
  obtain ⟨before, after⟩ := Field.liesWithin_iff.mp covered
  rw [Field.finish] at ends
  exact apart place ⟨by omega, by omega⟩

theorem Spares.covers_eq_false (spares : window.Spares field) (positive : 1 ≤ field.length) :
    window.covers field = false := by
  refine Bool.eq_false_iff.mpr fun covered => ?_
  obtain ⟨before, after⟩ := Field.liesWithin_iff.mp covered
  exact spares field.position (Nat.le_refl _) (by rw [Field.finish]; omega) ⟨before, by omega⟩

theorem Spares.bytesIn?_overwrite (spares : window.Spares field)
    (fits : window.offset + window.bytes.length ≤ buffer.length) :
    field.bytesIn? (overwrite buffer window.bytes window.offset) = field.bytesIn? buffer := by
  have same : ((overwrite buffer window.bytes window.offset).drop field.position).take field.length =
      (buffer.drop field.position).take field.length := by
    apply List.ext_getElem?
    intro index
    by_cases inside : index < field.length
    · have spared : ¬ window.Holds (field.position + index) :=
        spares _ (Nat.le_add_right _ _) (Nat.add_lt_add_left inside _)
      rw [getElem?_stored inside, getElem?_stored inside, getElem?_overwrite fits]
      exact if_neg spared
    · rw [List.getElem?_take_eq_none (by omega), List.getElem?_take_eq_none (by omega)]
  rw [Field.bytesIn?, Field.bytesIn?, length_overwrite fits, same]

end

end Window

/-- What an update brings a field is compared with the bytes of the field alone. -/
theorem Field.differs_congr {field : Field} {update buffer other : Bytes} {offset : Nat}
    (same : field.bytesIn? buffer = field.bytesIn? other) :
    field.differs update offset buffer = field.differs update offset other := by
  rw [differs, differs, same]

namespace Message

section
variable {message : Message} {first second window : Window} {index : Nat} {field : Field}
  {reading : Reading}

/-- Two messages of one layout are the same if they have the same bytes and the same is known of
their fields. -/
theorem eq_of_parts {message other : Message} (layout : message.layout = other.layout)
    (buffer : message.buffer = other.buffer)
    (readings : ∀ (index : Nat) (field : Field), message.layout.fields[index]? = some field →
      message.readings[index]? = other.readings[index]?) : message = other := by
  have same : message.readings = other.readings := by
    apply List.ext_getElem?
    intro index
    cases declared : message.layout.fields[index]? with
    | some field => exact readings index field declared
    | none =>
      have beyond : message.layout.fields.length ≤ index := List.getElem?_eq_none_iff.mp declared
      have unread : message.readings.length ≤ index := message.readings_length ▸ beyond
      have unreadToo : other.readings.length ≤ index := by
        rw [other.readings_length, ← layout]
        exact beyond
      rw [List.getElem?_eq_none unread, List.getElem?_eq_none unreadToo]
  cases message
  cases other
  cases layout
  cases buffer
  cases same
  rfl

theorem length_of_declared (declared : message.layout.fields[index]? = some field) :
    1 ≤ field.length :=
  (Field.length_of_check (message.layout.check_field (List.mem_of_getElem? declared))).1

theorem bytesIn?_absorb_of_spares (spares : window.Spares field)
    (fits : window.FitsInto message.layout) :
    field.bytesIn? (message.absorb window).buffer = field.bytesIn? message.buffer := by
  rw [buffer_absorb fits, spares.bytesIn?_overwrite (room_of_fits fits)]

theorem ofBuffer_absorb_of_spares (spares : window.Spares field)
    (fits : window.FitsInto message.layout) :
    Reading.ofBuffer field (message.absorb window).buffer = .ofBuffer field message.buffer := by
  have sameLength : (message.absorb window).buffer.length = message.buffer.length := by
    rw [(message.absorb window).buffer_length, message.buffer_length, layout_absorb]
  rw [Reading.ofBuffer, Reading.ofBuffer,
    Field.decode_congr (bytesIn?_absorb_of_spares spares fits) sameLength]

theorem reports_of_not_covers (declared : message.layout.fields[index]? = some field)
    (uncovered : window.covers field = false) :
    message.reports window.bytes window.offset index = false := by
  obtain ⟨reading, known⟩ := exists_reading declared
  rw [Window.covers] at uncovered
  rw [reports_eq declared known, uncovered, Bool.false_and]

/-- What an update reports is the same whether one apart from it has come before or not. -/
theorem reports_absorb_of_apart (apart : first.IsApart second)
    (fits : first.FitsInto message.layout) :
    (message.absorb first).reports second.bytes second.offset index =
      message.reports second.bytes second.offset index := by
  cases declared : message.layout.fields[index]? with
  | none => simp [reports, declared]
  | some field =>
    have declaredToo : (message.absorb first).layout.fields[index]? = some field :=
      declared_absorb declared
    cases covered : second.covers field with
    | false =>
      rw [reports_of_not_covers declaredToo covered, reports_of_not_covers declared covered]
    | true =>
      -- The first update leaves the bytes of the field alone, and what is known of it.
      have spares := apart.symm.spares covered
      have unreported := reports_of_not_covers declared
        (spares.covers_eq_false (length_of_declared declared))
      obtain ⟨reading, known⟩ := exists_reading declared
      have kept := getElem?_readings_absorb fits declared known
      rw [unreported] at kept
      rw [reports_eq declaredToo kept, reports_eq declared known,
        Field.differs_congr (bytesIn?_absorb_of_spares spares fits)]
      rfl

/-- A field is reported by one of two updates apart from each other at most. -/
theorem not_reports_of_apart (apart : first.IsApart second)
    (reported : message.reports first.bytes first.offset index = true) :
    message.reports second.bytes second.offset index = false := by
  obtain ⟨field, declared, covered, _⟩ := reports_iff.mp reported
  exact reports_of_not_covers declared
    ((apart.spares covered).covers_eq_false (length_of_declared declared))

/-- What is known of a field after two updates apart from each other. -/
theorem getElem?_readings_absorb_absorb (apart : first.IsApart second)
    (fits : first.FitsInto message.layout) (fitsToo : second.FitsInto message.layout)
    (declared : message.layout.fields[index]? = some field)
    (known : message.readings[index]? = some reading) :
    ((message.absorb first).absorb second).readings[index]? =
      some (if message.reports first.bytes first.offset index ||
          message.reports second.bytes second.offset index then
        .ofBuffer field ((message.absorb first).absorb second).buffer
      else reading) := by
  have fitsLater : second.FitsInto (message.absorb first).layout := by rwa [layout_absorb]
  rw [getElem?_readings_absorb fitsLater (declared_absorb declared)
    (getElem?_readings_absorb fits declared known), reports_absorb_of_apart apart fits]
  cases later : message.reports second.bytes second.offset index with
  | true => simp
  | false =>
    cases earlier : message.reports first.bytes first.offset index with
    | false => simp
    | true =>
      -- The first update has covered the field, and the second one spares it.
      obtain ⟨other, declaredToo, covered, _⟩ := reports_iff.mp earlier
      cases declared.symm.trans declaredToo
      simp [ofBuffer_absorb_of_spares (apart.spares covered) fitsLater]

/-! ## Either order -/

/-- Windows that share no byte are written in either order. -/
theorem overwrite_comm {buffer : Bytes} (apart : first.IsApart second)
    (fits : first.offset + first.bytes.length ≤ buffer.length)
    (fitsToo : second.offset + second.bytes.length ≤ buffer.length) :
    overwrite (overwrite buffer first.bytes first.offset) second.bytes second.offset =
      overwrite (overwrite buffer second.bytes second.offset) first.bytes first.offset := by
  have later : second.offset + second.bytes.length ≤
      (overwrite buffer first.bytes first.offset).length := by rwa [length_overwrite fits]
  have laterToo : first.offset + first.bytes.length ≤
      (overwrite buffer second.bytes second.offset).length := by rwa [length_overwrite fitsToo]
  apply List.ext_getElem?
  intro place
  rw [getElem?_overwrite later, getElem?_overwrite fits, getElem?_overwrite laterToo,
    getElem?_overwrite fitsToo]
  by_cases held : first.Holds place
  · have spared : ¬ second.Holds place := apart place held
    rw [Window.Holds] at held spared
    rw [if_neg spared, if_pos held, if_pos held]
  · rw [Window.Holds] at held
    rw [if_neg held, if_neg held]

theorem absorb_comm (apart : first.IsApart second) (fits : first.FitsInto message.layout)
    (fitsToo : second.FitsInto message.layout) :
    (message.absorb first).absorb second = (message.absorb second).absorb first := by
  have later : second.FitsInto (message.absorb first).layout := by rwa [layout_absorb]
  have laterToo : first.FitsInto (message.absorb second).layout := by rwa [layout_absorb]
  have buffer : ((message.absorb first).absorb second).buffer =
      ((message.absorb second).absorb first).buffer := by
    rw [buffer_absorb later, buffer_absorb fits, buffer_absorb laterToo, buffer_absorb fitsToo]
    exact overwrite_comm apart (room_of_fits fits) (room_of_fits fitsToo)
  refine eq_of_parts (by simp) buffer fun index field declared => ?_
  rw [layout_absorb, layout_absorb] at declared
  obtain ⟨reading, known⟩ := exists_reading declared
  rw [getElem?_readings_absorb_absorb apart fits fitsToo declared known,
    getElem?_readings_absorb_absorb apart.symm fitsToo fits declared known, buffer, Bool.or_comm]

/-- What an update reports does not hang on whether one apart from it has come before. -/
theorem changedBy_absorb_of_apart (apart : first.IsApart second)
    (fits : first.FitsInto message.layout) :
    (message.absorb first).changedBy second.bytes second.offset =
      message.changedBy second.bytes second.offset := by
  rw [changedBy, changedBy, layout_absorb]
  exact List.filter_congr fun _ _ => reports_absorb_of_apart apart fits

/-- Two updates that fit and share no byte may come in either order, even if each brings a part of
the same field: the message is the same afterwards, and each of them reports the same fields. -/
theorem parse_comm (message : Message) (first second : Window) (apart : first.IsApart second)
    (fits : first.offset + first.bytes.length ≤ message.layout.length)
    (fitsToo : second.offset + second.bytes.length ≤ message.layout.length) :
    ∃ firstAhead secondBehind secondAhead firstBehind,
      message.parse first.bytes first.offset = .ok firstAhead ∧
      firstAhead.message.parse second.bytes second.offset = .ok secondBehind ∧
      message.parse second.bytes second.offset = .ok secondAhead ∧
      secondAhead.message.parse first.bytes first.offset = .ok firstBehind ∧
      secondBehind.message = firstBehind.message ∧
      firstAhead.changed = firstBehind.changed ∧ secondAhead.changed = secondBehind.changed := by
  have ahead : first.FitsInto message.layout := fits
  have aheadToo : second.FitsInto message.layout := fitsToo
  have behind : second.FitsInto (message.absorb first).layout := by rwa [layout_absorb]
  have behindToo : first.FitsInto (message.absorb second).layout := by rwa [layout_absorb]
  have parsed := message.parse_of_fits ahead
  have parsedToo := message.parse_of_fits aheadToo
  rw [← absorb_of_fits ahead] at parsed
  rw [← absorb_of_fits aheadToo] at parsedToo
  refine ⟨_, _, _, _, parsed, parse_of_fits _ behind, parsedToo, parse_of_fits _ behindToo,
    ?_, ?_, ?_⟩
  · rw [← absorb_of_fits behind, ← absorb_of_fits behindToo]
    exact absorb_comm apart ahead aheadToo
  · exact (changedBy_absorb_of_apart apart.symm aheadToo).symm
  · exact (changedBy_absorb_of_apart apart ahead).symm

end

/-- Each of two updates brings a part of the timestamp, and the second one brings the day of the week
and the bits of the clock as well. The timestamp is reported by neither of them, in both orders. -/
theorem parse_comm_of_cut_timestamp :
    let message := Message.new clockTime
    let first : Window := ⟨[25, 6, 14], 0⟩
    let second : Window := ⟨[1, 30, 5, 3, 0x03], 3⟩
    first.IsApart second ∧ first.offset + first.bytes.length ≤ message.layout.length ∧
      second.offset + second.bytes.length ≤ message.layout.length ∧
      ∃ firstAhead secondBehind secondAhead firstBehind,
        message.parse first.bytes first.offset = .ok firstAhead ∧
        firstAhead.message.parse second.bytes second.offset = .ok secondBehind ∧
        message.parse second.bytes second.offset = .ok secondAhead ∧
        secondAhead.message.parse first.bytes first.offset = .ok firstBehind ∧
        secondBehind.message = firstBehind.message ∧
        firstBehind.changed = [] ∧ secondBehind.changed = [1, 2, 3, 4, 5, 6] := by
  intro message first second
  have apart : first.IsApart second := fun _ held heldToo => Nat.not_le_of_lt held.2 heldToo.1
  have fits : first.offset + first.bytes.length ≤ message.layout.length := by decide
  have fitsToo : second.offset + second.bytes.length ≤ message.layout.length := by decide
  have reported : message.changedBy first.bytes first.offset = [] := by decide +kernel
  have reportedToo : message.changedBy second.bytes second.offset = [1, 2, 3, 4, 5, 6] := by
    decide +kernel
  obtain ⟨firstAhead, secondBehind, secondAhead, firstBehind, parsed, parsedBehind, parsedToo,
    parsedBehindToo, same, changed, changedToo⟩ := parse_comm message first second apart fits fitsToo
  obtain ⟨_, rfl⟩ := parse_eq_ok_iff.mp parsed
  obtain ⟨_, rfl⟩ := parse_eq_ok_iff.mp parsedToo
  exact ⟨apart, fits, fitsToo, _, _, _, _, parsed, parsedBehind, parsedToo, parsedBehindToo, same,
    changed.symm.trans reported, changedToo.symm.trans reportedToo⟩

end Message

end HeatingBus
