import HeatingBus.Catalog.KnownMessages
import HeatingBus.Proofs.Field.Bits
import HeatingBus.Proofs.Message.LastBytes
import HeatingBus.Proofs.Message.Layouts

/-!
# Reports

What an update reports of a message. A field is reported if the update covers it and either it was
never reported before or the update brings it other bytes than those in the buffer; of a boolean
field only its bit counts. The reports are all that a consumer needs to keep up with the values. An
update may be of any length and start at any place, but where its end is no machine word the program
stops instead of refusing it.
-/

namespace HeatingBus

/-! ## Changes of a field -/

/-- Whether a window brings a field other bytes than those in a buffer, or another bit if the field
is a boolean one. -/
def Field.IsChangedBy (field : Field) (window : Window) (buffer : Bytes) : Prop :=
  match field.kind with
  | .boolean bit =>
    (window.byteAt? field.position).map (·.toNat.testBit bit.toNat) ≠
      buffer[field.position]?.map (·.toNat.testBit bit.toNat)
  | _ =>
    ∃ place, field.position ≤ place ∧ place < field.finish ∧ window.byteAt? place ≠ buffer[place]?

section
variable {field : Field} {window : Window} {buffer : Bytes} {index : Nat}

/-- The bytes that a window brings to a field. -/
theorem getElem?_incoming (covered : window.covers field = true) (inside : index < field.length) :
    ((window.bytes.drop (field.position - window.offset)).take field.length)[index]? =
      window.byteAt? (field.position + index) := by
  have starts := (Field.liesWithin_iff.mp covered).1
  rw [List.getElem?_take_of_lt inside, List.getElem?_drop, Window.byteAt?, if_pos (by omega)]
  congr 1
  omega

theorem getElem?_stored (inside : index < field.length) :
    ((buffer.drop field.position).take field.length)[index]? = buffer[field.position + index]? := by
  rw [List.getElem?_take_of_lt inside, List.getElem?_drop]

/-- The bytes of a field differ if they differ at one of its places. -/
theorem incoming_ne_stored_iff (covered : window.covers field = true) :
    (window.bytes.drop (field.position - window.offset)).take field.length ≠
        (buffer.drop field.position).take field.length ↔
      ∃ place, field.position ≤ place ∧ place < field.finish ∧
        window.byteAt? place ≠ buffer[place]? := by
  rw [Ne, List.ext_getElem?_iff, not_forall]
  -- The places of the field are those of the two lists, counted from the start of the message.
  constructor
  · rintro ⟨index, differs⟩
    by_cases inside : index < field.length
    · rw [getElem?_incoming covered inside, getElem?_stored inside] at differs
      exact ⟨field.position + index, by omega, by rw [Field.finish]; omega, differs⟩
    · rw [List.getElem?_take_eq_none (by omega), List.getElem?_take_eq_none (by omega)] at differs
      exact absurd rfl differs
  · rintro ⟨place, starts, ends, differs⟩
    rw [Field.finish] at ends
    have inside : place - field.position < field.length := by omega
    refine ⟨place - field.position, ?_⟩
    rwa [getElem?_incoming covered inside, getElem?_stored inside,
      show field.position + (place - field.position) = place by omega]

theorem headD_incoming (covered : window.covers field = true) (single : field.length = 1) :
    ((window.bytes.drop (field.position - window.offset)).take field.length).headD 0 =
      (window.byteAt? field.position).getD 0 := by
  rw [List.headD_eq_head?_getD, List.head?_eq_getElem?, getElem?_incoming covered (by omega),
    Nat.add_zero]

theorem headD_stored (single : field.length = 1) :
    ((buffer.drop field.position).take field.length).headD 0 =
      buffer[field.position]?.getD 0 := by
  rw [List.headD_eq_head?_getD, List.head?_eq_getElem?, getElem?_stored (by omega), Nat.add_zero]

/-- The comparison of a covered field with its bytes in the buffer finds out whether it changes. -/
theorem differs_iff_isChangedBy {messageLength : Nat} (kept : field.check messageLength = .ok ())
    (covered : window.covers field = true)
    (fits : window.offset + window.bytes.length ≤ buffer.length) :
    field.differs window.bytes window.offset buffer = true ↔ field.IsChangedBy window buffer := by
  obtain ⟨starts, ends⟩ := Field.liesWithin_iff.mp covered
  have stored : field.bytesIn? buffer = some ((buffer.drop field.position).take field.length) :=
    if_pos (by rw [Field.finish]; omega)
  rw [Window.covers] at covered
  cases kind : field.kind with
  | boolean bit =>
    -- The field is a single byte, and what is compared of it is the bit under the mask.
    have single : field.length = 1 := by
      have bounds := Field.lengthBounds_of_check kept
      rw [kind, FieldKind.lengthBounds] at bounds
      omega
    obtain ⟨old, held⟩ : ∃ old, buffer[field.position]? = some old :=
      ⟨_, List.getElem?_eq_getElem (by omega)⟩
    obtain ⟨new, brought⟩ : ∃ new, window.byteAt? field.position = some new := by
      rw [Window.byteAt?, if_pos starts]
      exact ⟨_, List.getElem?_eq_getElem (by omega)⟩
    simp only [Field.differs, covered, if_true, stored, kind, Field.IsChangedBy, held, brought,
      headD_incoming covered single, headD_stored single, Option.getD_some, Option.map_some,
      bne_iff_ne, Ne, Option.some.injEq, Field.and_bitMask_eq_iff (Field.bit_of_check kept kind)]
  | integer _ _ | flag _ | date | dateTime | text =>
    simp only [Field.differs, covered, if_true, stored, kind, Field.IsChangedBy, bne_iff_ne]
    exact incoming_ne_stored_iff covered

/-- A window that was just written into a buffer differs from it nowhere. -/
theorem not_differs_overwrite (covered : window.covers field = true)
    (fits : window.offset + window.bytes.length ≤ buffer.length) :
    field.differs window.bytes window.offset (overwrite buffer window.bytes window.offset) =
      false := by
  have stored := Field.bytesIn?_overwrite_of_liesWithin fits covered
  rw [Window.covers] at covered
  simp only [Field.differs, covered, if_true, stored]
  cases field.kind <;> simp

end

namespace Message

/-! ## One update -/

section
variable {message : Message} {window : Window} {index : Nat} {field : Field} {reading : Reading}

theorem reports_iff :
    message.reports window.bytes window.offset index = true ↔
      ∃ field, message.layout.fields[index]? = some field ∧ window.covers field = true ∧
        (message.readings[index]? = some .unseen ∨
          field.differs window.bytes window.offset message.buffer = true) := by
  cases declared : message.layout.fields[index]? with
  | none => simp [reports, declared]
  | some field =>
    obtain ⟨reading, known⟩ := exists_reading declared
    rw [reports_eq declared known, known, Bool.and_eq_true, Bool.or_eq_true, Reading.isUnseen_iff]
    simp [Window.covers]

theorem mem_changedBy_iff {update : Bytes} {offset : Nat} :
    index ∈ message.changedBy update offset ↔ message.reports update offset index = true := by
  rw [changedBy, List.mem_filter, List.mem_range]
  refine and_iff_right_of_imp fun reported => ?_
  let window : Window := ⟨update, offset⟩
  have reported : message.reports window.bytes window.offset index = true := reported
  obtain ⟨field, declared, _⟩ := reports_iff.mp reported
  exact (List.getElem?_eq_some_iff.mp declared).1

theorem pairwise_changedBy (message : Message) (update : Bytes) (offset : Nat) :
    (message.changedBy update offset).Pairwise (· < ·) :=
  List.pairwise_lt_range.filter _

/-- An update that has been merged already reports nothing. -/
theorem changedBy_absorb (fits : window.FitsInto message.layout) :
    (message.absorb window).changedBy window.bytes window.offset = [] := by
  refine List.eq_nil_iff_forall_not_mem.mpr fun index reported => ?_
  obtain ⟨field, declared, covered, first | differs⟩ := reports_iff.mp (mem_changedBy_iff.mp reported)
  · rw [layout_absorb] at declared
    rw [((unseen_absorb_iff fits declared).mp first).2] at covered
    cases covered
  · rw [buffer_absorb fits, not_differs_overwrite covered (room_of_fits fits)] at differs
    cases differs

/-- Reported fields have the values that the buffer decodes to, and all others keep theirs. -/
theorem getElem?_values_absorb (fits : window.FitsInto message.layout)
    (declared : message.layout.fields[index]? = some field) :
    (message.absorb window).values[index]? =
      if index ∈ message.changedBy window.bytes window.offset then
        some (field, (field.decode (message.absorb window).buffer).toOption)
      else message.values[index]? := by
  obtain ⟨reading, known⟩ := exists_reading declared
  rw [getElem?_values (declared_absorb declared) (getElem?_readings_absorb fits declared known),
    getElem?_values declared known]
  by_cases reported : index ∈ message.changedBy window.bytes window.offset
  · rw [if_pos reported, if_pos (mem_changedBy_iff.mp reported), Reading.value?_ofBuffer]
  · rw [if_neg reported, if_neg (mem_changedBy_iff.not.mp reported)]

end

/-! ## Histories -/

def IsReportedBy (message : Message) (window : Window) (index : Nat) : Prop :=
  ∃ outcome, message.parse window.bytes window.offset = .ok outcome ∧ index ∈ outcome.changed

def HasReported (layout : MessageLayout) (history : List Window) (index : Nat) : Prop :=
  ∃ earlier window, earlier ++ [window] <+: history ∧
    (after layout earlier).IsReportedBy window index

section
variable {message : Message} {layout : MessageLayout} {history : List Window} {window : Window}
  {index : Nat} {field : Field}

theorem isReportedBy_iff (declared : message.layout.fields[index]? = some field) :
    message.IsReportedBy window index ↔
      window.FitsInto message.layout ∧ window.covers field = true ∧
        (message.readings[index]? = some .unseen ∨
          field.differs window.bytes window.offset message.buffer = true) := by
  constructor
  · rintro ⟨outcome, parsed, reported⟩
    obtain ⟨fits, rfl⟩ := parse_eq_ok_iff.mp parsed
    obtain ⟨other, declaredToo, changes⟩ := reports_iff.mp (mem_changedBy_iff.mp reported)
    cases declared.symm.trans declaredToo
    exact ⟨fits, changes⟩
  · rintro ⟨fits, changes⟩
    exact ⟨_, message.parse_of_fits fits,
      mem_changedBy_iff.mpr (reports_iff.mpr ⟨field, declared, changes⟩)⟩

theorem hasReported_concat :
    HasReported layout (history ++ [window]) index ↔
      HasReported layout history index ∨ (after layout history).IsReportedBy window index := by
  constructor
  · rintro ⟨earlier, other, front, reported⟩
    rcases List.prefix_concat_iff.mp front with whole | front
    · obtain ⟨rfl, last⟩ := List.append_inj' whole rfl
      cases last
      exact .inr reported
    · exact .inl ⟨earlier, other, front, reported⟩
  · rintro (⟨earlier, other, front, reported⟩ | reported)
    · exact ⟨earlier, other, front.trans (List.prefix_append _ _), reported⟩
    · exact ⟨history, window, List.prefix_refl _, reported⟩

/-- A field is reported for the first time when it is covered for the first time. -/
theorem hasReported_iff_hasCovered (declared : layout.fields[index]? = some field) :
    HasReported layout history index ↔ HasCovered layout history field := by
  induction history using List.reverseRecOn with
  | nil => simp [HasReported, HasCovered]
  | append_singleton history window inductionHypothesis =>
    rw [hasReported_concat, hasCovered_concat, isReportedBy_iff (declared_after history declared),
      unseen_after_iff declared, inductionHypothesis, fitsInto_layout_after]
    by_cases seen : HasCovered layout history field <;> simp [seen]

end

end Message

/-! ## Consumers -/

/-- What a consumer holds once it has copied the values of the reported fields. -/
def Update.copyTo (update : Update) (held : List (Field × Option Value)) :
    List (Field × Option Value) :=
  held.mapIdx fun index entry =>
    if index ∈ update.changed then (update.message.values[index]?).getD entry else entry

namespace Message

def serve (state : Message × List (Field × Option Value)) (window : Window) :
    Message × List (Field × Option Value) :=
  match state.1.parse window.bytes window.offset with
  | .ok outcome => (outcome.message, outcome.copyTo state.2)
  | .error _ => state

/-- A message after some updates, and what a consumer holds who has copied the values of reported
fields ever since the message was new. -/
def serveAll (layout : MessageLayout) (history : List Window) :
    Message × List (Field × Option Value) :=
  history.foldl serve (new layout, (new layout).values)

section
variable {message : Message} {layout : MessageLayout} {history : List Window} {window : Window}
  {index : Nat} {outcome : Update}

/-- Who held the values before an update holds them after it. -/
theorem copyTo_values (parsed : message.parse window.bytes window.offset = .ok outcome) :
    outcome.copyTo message.values = outcome.message.values := by
  obtain ⟨fits, rfl⟩ := parse_eq_ok_iff.mp parsed
  apply List.ext_getElem?
  intro index
  rw [Update.copyTo, List.getElem?_mapIdx, ← absorb_of_fits fits]
  cases declared : message.layout.fields[index]? with
  | none =>
    -- Past the fields there is nothing to hold.
    simp [values, List.zip, List.getElem?_zipWith, declared]
  | some field =>
    obtain ⟨reading, known⟩ := exists_reading declared
    rw [getElem?_values_absorb fits declared, getElem?_values declared known, Option.map_some]
    split <;> rfl

/-- The consumer keeps up with the message. -/
theorem serveAll_eq (layout : MessageLayout) (history : List Window) :
    serveAll layout history = (after layout history, (after layout history).values) := by
  induction history using List.reverseRecOn with
  | nil => rfl
  | append_singleton history window inductionHypothesis =>
    rw [serveAll, List.foldl_append, ← serveAll, inductionHypothesis, after_concat]
    simp only [List.foldl_cons, List.foldl_nil, serve]
    cases parsed : (after layout history).parse window.bytes window.offset with
    | ok outcome =>
      dsimp only
      rw [absorb_of_parse parsed, copyTo_values parsed]
    | error error => rw [absorb, parsed]

/-- What an update that fits does to a message, after any history of updates. -/
structure IsOutcome (layout : MessageLayout) (history : List Window) (window : Window)
    (outcome : Update) : Prop where
  kept : outcome.message.layout = layout
  /-- The buffer has the bytes of the window within it, and its old bytes elsewhere. -/
  buffer : ∀ place, outcome.message.buffer[place]? =
    if window.offset ≤ place ∧ place < window.offset + window.bytes.length then
      window.bytes[place - window.offset]?
    else (after layout history).buffer[place]?
  ascending : outcome.changed.Pairwise (· < ·)
  /-- A covered field is reported for the first time, or if it changes. -/
  changed : ∀ index, index ∈ outcome.changed ↔
    ∃ field, layout.fields[index]? = some field ∧ window.covers field = true ∧
      (¬ HasReported layout history index ∨ field.IsChangedBy window (after layout history).buffer)
  /-- The values of reported fields are decoded from the new buffer, and all others stay. -/
  values : ∀ index field, layout.fields[index]? = some field → outcome.message.values[index]? =
    if index ∈ outcome.changed then
      some (field, (field.decode outcome.message.buffer).toOption)
    else (after layout history).values[index]?
  /-- The same update reports nothing when it comes again. -/
  again : ∃ same, outcome.message.parse window.bytes window.offset = .ok same ∧ same.changed = []

theorem isOutcome_of_parse
    (parsed : (after layout history).parse window.bytes window.offset = .ok outcome) :
    IsOutcome layout history window outcome := by
  obtain ⟨fits, rfl⟩ := parse_eq_ok_iff.mp parsed
  have same : layout = (after layout history).layout := (layout_after layout history).symm
  refine ⟨?_, ?_, pairwise_changedBy _ _ _, fun index => ?_, fun index field declared => ?_, ?_⟩
  · exact layout_after layout history
  · exact getElem?_overwrite (room_of_fits fits)
  · refine mem_changedBy_iff.trans (reports_iff.trans ?_)
    rw [layout_after]
    refine exists_congr fun field => and_congr_right fun declared => and_congr_right fun covered => ?_
    rw [unseen_after_iff declared, hasReported_iff_hasCovered declared]
    have kept := layout.check_field (List.mem_of_getElem? declared)
    rw [differs_iff_isChangedBy kept covered (room_of_fits fits)]
  · rw [← absorb_of_fits fits]
    exact getElem?_values_absorb fits (declared_after history declared)
  · have fitsAgain : window.FitsInto ((after layout history).absorb window).layout := by
      rw [layout_absorb]
      exact fits
    rw [← absorb_of_fits fits]
    exact ⟨_, parse_of_fits _ fitsAgain, changedBy_absorb fits⟩

theorem parse?_eq_none_iff :
    message.parse? window.bytes window.offset = none ↔
      wordLimit ≤ window.offset + window.bytes.length := by
  rw [parse?, Option.map_eq_none_iff, wordSum?_eq_none_iff]

theorem parse?_eq_some (ends : window.offset + window.bytes.length < wordLimit) :
    message.parse? window.bytes window.offset =
      some (message.parse window.bytes window.offset) := by
  rw [parse?, wordSum?_eq_some ends, Option.map_some]

theorem parse?_eq_error_iff {error : BusError} :
    message.parse? window.bytes window.offset = some (.error error) ↔
      window.offset + window.bytes.length < wordLimit ∧
        message.layout.length < window.offset + window.bytes.length ∧
        error = .outOfRange window.offset window.bytes.length message.layout.length := by
  by_cases ends : window.offset + window.bytes.length < wordLimit
  · rw [parse?_eq_some ends, Option.some.injEq, parse_eq_error_iff, and_iff_right ends]
  · rw [parse?_eq_none_iff.mpr (Nat.not_lt.mp ends)]
    exact iff_of_false nofun fun refused => ends refused.1

/-- After any history, the program stops at an update whose end is no word. Any other update is
refused exactly if it reaches beyond the message, which then stays as it was, and has its outcome if
it does not. A consumer who copies the values of reported fields alone always holds all values. -/
theorem parse_after (layout : MessageLayout) (history : List Window) (window : Window) :
    let before := after layout history
    let finish := window.offset + window.bytes.length
    (before.parse? window.bytes window.offset = none ↔ wordLimit ≤ finish) ∧
    (∀ error, before.parse? window.bytes window.offset = some (.error error) ↔
      finish < wordLimit ∧ layout.length < finish ∧
        error = .outOfRange window.offset window.bytes.length layout.length) ∧
    (layout.length < finish → before.absorb window = before) ∧
    (finish < wordLimit → finish ≤ layout.length →
      ∃ outcome, before.parse? window.bytes window.offset = some (.ok outcome) ∧
        before.absorb window = outcome.message ∧ IsOutcome layout history window outcome) ∧
    (serveAll layout history).2 = before.values := by
  intro before finish
  have same : before.layout = layout := layout_after layout history
  refine ⟨parse?_eq_none_iff, fun error => ?_, fun beyond => absorb_of_not_fits ?_,
    fun ends fits => ?_, ?_⟩
  · rw [parse?_eq_error_iff, same]
  · rw [fitsInto_layout_after]
    exact Nat.not_le.mpr beyond
  · have parsed := before.parse_of_fits (fitsInto_layout_after.mpr fits)
    exact ⟨_, by rw [parse?_eq_some ends, parsed], absorb_of_parse parsed,
      isOutcome_of_parse parsed⟩
  · rw [serveAll_eq]

end

def clockTime : MessageLayout where
  row := .readOnly 0x06 "RcTime" 8 KnownMessages.rcTimeFields
  index := _
  accepted := rfl

/-- An update brings the second of the time, the day of the week and the bits of the clock. It
reports nothing but the one bit that changes: the day is the same, and the time is not covered. -/
theorem parse_after_of_one_bit :
    let history : List Window := [⟨[25, 6, 14, 1, 30, 5, 3, 0x01], 0⟩]
    let window : Window := ⟨[6, 3, 0x03], 5⟩
    window.offset + window.bytes.length < wordLimit ∧
      window.offset + window.bytes.length ≤ clockTime.length ∧
      ∃ outcome,
        (after clockTime history).parse? window.bytes window.offset = some (.ok outcome) ∧
        IsOutcome clockTime history window outcome ∧ outcome.changed = [3] := by
  intro history window
  have ends : window.offset + window.bytes.length < wordLimit := by decide
  have fits : window.offset + window.bytes.length ≤ clockTime.length := by decide
  have reported : (after clockTime history).changedBy window.bytes window.offset = [3] := by
    decide +kernel
  obtain ⟨_, _, _, succeeds, _⟩ := parse_after clockTime history window
  obtain ⟨outcome, parsed, _, isOutcome⟩ := succeeds ends fits
  have told := parsed
  rw [parse?_eq_some ends, Option.some.injEq] at told
  obtain ⟨_, rfl⟩ := parse_eq_ok_iff.mp told
  exact ⟨ends, fits, _, parsed, isOutcome, reported⟩

/-- The end of one byte at the last place of all is no word, and the update is not refused. -/
theorem not_parse_after :
    ¬ ∀ (layout : MessageLayout) (history : List Window) (window : Window),
        window.offset < wordLimit → layout.length < window.offset + window.bytes.length →
        (after layout history).parse? window.bytes window.offset =
          some (.error (.outOfRange window.offset window.bytes.length layout.length)) := by
  intro refused
  have told := refused clockTime [] ⟨[0], wordLimit - 1⟩ (by decide) (by decide)
  have stops : (after clockTime []).parse? [0] (wordLimit - 1) = none := rfl
  cases stops.symm.trans told

end Message

end HeatingBus
