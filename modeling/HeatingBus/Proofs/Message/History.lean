import HeatingBus.Proofs.Field.Windows
import Mathlib.Data.List.Induction

/-!
# Messages and their histories

The message that a history of updates leaves behind, from the empty message on. An update that does
not fit changes nothing. The lemmas say what a single update does to the buffer and to what is known
of one field; what holds after a whole history follows by induction on its last update.
-/

namespace HeatingBus

/-- An update as it arrives: some bytes, and the place in the message where they belong. -/
structure Window where
  bytes : Bytes
  offset : Nat
  deriving Repr, DecidableEq

namespace Window

def FitsInto (window : Window) (layout : MessageLayout) : Prop :=
  window.offset + window.bytes.length ≤ layout.length

instance (window : Window) (layout : MessageLayout) : Decidable (window.FitsInto layout) :=
  inferInstanceAs (Decidable (_ ≤ _))

def covers (window : Window) (field : Field) : Bool :=
  field.liesWithin window.offset window.bytes.length

/-- Whether a window holds a part of a field, but not all of it. -/
def cuts (window : Window) (field : Field) : Bool :=
  field.isCutBy window.offset window.bytes.length

/-- A window that neither covers nor cuts a field does not touch it. -/
theorem not_touches {window : Window} {field : Field} (uncovered : window.covers field = false)
    (uncut : window.cuts field = false) :
    field.touches window.offset window.bytes.length = false := by
  rw [covers] at uncovered
  simpa [cuts, Field.isCutBy, uncovered] using uncut

end Window

theorem Reading.isUnseen_iff {reading : Reading} : reading.isUnseen = true ↔ reading = .unseen := by
  cases reading <;> simp [isUnseen]

theorem Reading.ofBuffer_ne_unseen (field : Field) (buffer : Bytes) :
    Reading.ofBuffer field buffer ≠ .unseen := by
  unfold ofBuffer
  cases field.decode buffer <;> simp

/-- What a field decodes to, if it decodes to anything. -/
theorem Reading.value?_ofBuffer (field : Field) (buffer : Bytes) :
    (Reading.ofBuffer field buffer).value? = (field.decode buffer).toOption := by
  unfold ofBuffer
  cases field.decode buffer <;> rfl

namespace Message

/-! ## One update -/

/-- The message after an update; one that does not fit leaves the message as it was. -/
def absorb (message : Message) (window : Window) : Message :=
  match message.parse window.bytes window.offset with
  | .ok update => update.message
  | .error _ => message

theorem parse_eq_ok_iff {message : Message} {update : Bytes} {offset : Nat} {outcome : Update} :
    message.parse update offset = .ok outcome ↔
      ∃ fits : offset + update.length ≤ message.layout.length,
        outcome = ⟨message.merge update offset fits, message.changedBy update offset,
          message.updateNotes update offset⟩ := by
  by_cases fits : offset + update.length ≤ message.layout.length
  · simp only [parse, fits, dite_true, Except.ok.injEq, exists_true_left]
    exact eq_comm
  · simp [parse, fits]

theorem parse_eq_error_iff {message : Message} {update : Bytes} {offset : Nat}
    {error : BusError} :
    message.parse update offset = .error error ↔
      message.layout.length < offset + update.length ∧
        error = .outOfRange offset update.length message.layout.length := by
  by_cases fits : offset + update.length ≤ message.layout.length
  · simp [parse, fits, Nat.not_lt.mpr fits]
  · simp only [parse, fits, dite_false, Except.error.injEq, Nat.lt_of_not_le fits, true_and]
    exact eq_comm

theorem parse_of_fits (message : Message) {window : Window}
    (fits : window.FitsInto message.layout) :
    message.parse window.bytes window.offset =
      .ok ⟨message.merge window.bytes window.offset fits,
        message.changedBy window.bytes window.offset,
        message.updateNotes window.bytes window.offset⟩ :=
  parse_eq_ok_iff.mpr ⟨fits, rfl⟩

theorem parse_of_not_fits (message : Message) {window : Window}
    (sticks : ¬ window.FitsInto message.layout) :
    message.parse window.bytes window.offset =
      .error (.outOfRange window.offset window.bytes.length message.layout.length) :=
  parse_eq_error_iff.mpr ⟨Nat.lt_of_not_le sticks, rfl⟩

theorem absorb_of_parse {message : Message} {window : Window} {outcome : Update}
    (parsed : message.parse window.bytes window.offset = .ok outcome) :
    message.absorb window = outcome.message := by
  rw [absorb, parsed]

theorem absorb_of_fits {message : Message} {window : Window}
    (fits : window.FitsInto message.layout) :
    message.absorb window = message.merge window.bytes window.offset fits := by
  rw [absorb, message.parse_of_fits fits]

theorem absorb_of_not_fits {message : Message} {window : Window}
    (sticks : ¬ window.FitsInto message.layout) : message.absorb window = message := by
  rw [absorb, message.parse_of_not_fits sticks]

/-- A window that fits into a message fits into its buffer. -/
theorem room_of_fits {message : Message} {window : Window}
    (fits : window.FitsInto message.layout) :
    window.offset + window.bytes.length ≤ message.buffer.length := by
  rw [message.buffer_length]
  exact fits

@[simp] theorem layout_absorb (message : Message) (window : Window) :
    (message.absorb window).layout = message.layout := by
  by_cases fits : window.FitsInto message.layout
  · rw [absorb_of_fits fits]
    rfl
  · rw [absorb_of_not_fits fits]

/-! ## What is known of one field -/

theorem reports_eq {message : Message} {update : Bytes} {offset index : Nat} {field : Field}
    {reading : Reading} (declared : message.layout.fields[index]? = some field)
    (known : message.readings[index]? = some reading) :
    message.reports update offset index =
      (field.liesWithin offset update.length &&
        (reading.isUnseen || field.differs update offset message.buffer)) := by
  simp only [reports, declared, known]

/-- Something is known of every declared field, if only that no update has covered it. -/
theorem exists_reading {message : Message} {index : Nat} {field : Field}
    (declared : message.layout.fields[index]? = some field) :
    ∃ reading, message.readings[index]? = some reading := by
  have bound : index < message.layout.fields.length := (List.getElem?_eq_some_iff.mp declared).1
  rw [← message.readings_length] at bound
  exact ⟨_, List.getElem?_eq_getElem bound⟩

section
variable {message : Message} {window : Window} {index : Nat} {field : Field} {reading : Reading}

/-- The value of a field is the one that is known of it. -/
theorem getElem?_values (declared : message.layout.fields[index]? = some field)
    (known : message.readings[index]? = some reading) :
    message.values[index]? = some (field, reading.value?) :=
  List.getElem?_zip_eq_some.mpr ⟨declared, by rw [List.getElem?_map, known, Option.map_some]⟩

/-- What is known of a field after an update that fits: its new value if the update reports the
field, and what was known before otherwise. -/
theorem getElem?_readings_absorb (fits : window.FitsInto message.layout)
    (declared : message.layout.fields[index]? = some field)
    (known : message.readings[index]? = some reading) :
    (message.absorb window).readings[index]? =
      some (if message.reports window.bytes window.offset index then
        .ofBuffer field (message.absorb window).buffer else reading) := by
  have paired : (message.layout.fields.zip message.readings)[index]? = some (field, reading) :=
    List.getElem?_zip_eq_some.mpr ⟨declared, known⟩
  rw [absorb_of_fits fits]
  simp [merge, readingsAfter, List.getElem?_mapIdx, paired]

theorem declared_absorb (declared : message.layout.fields[index]? = some field) :
    (message.absorb window).layout.fields[index]? = some field := by
  rw [layout_absorb, declared]

theorem buffer_absorb (fits : window.FitsInto message.layout) :
    (message.absorb window).buffer = overwrite message.buffer window.bytes window.offset := by
  rw [absorb_of_fits fits]
  rfl

/-- A field stays unseen for as long as it is not covered. -/
theorem unseen_absorb_iff (fits : window.FitsInto message.layout)
    (declared : message.layout.fields[index]? = some field) :
    (message.absorb window).readings[index]? = some .unseen ↔
      message.readings[index]? = some .unseen ∧ window.covers field = false := by
  obtain ⟨reading, known⟩ := exists_reading declared
  rw [getElem?_readings_absorb fits declared known, reports_eq declared known, known,
    Option.some.injEq, Option.some.injEq, Window.covers]
  cases covered : field.liesWithin window.offset window.bytes.length with
  | false => simp
  | true =>
    -- A covered field is reported and decoded, unless it had been seen before.
    rw [Bool.true_and]
    split
    · simp [Reading.ofBuffer_ne_unseen]
    · rename_i unreported
      have seen : reading ≠ .unseen := fun unseen => unreported (by simp [unseen, Reading.isUnseen])
      simp [seen]

end

/-! ## Histories -/

def after (layout : MessageLayout) (history : List Window) : Message :=
  history.foldl absorb (new layout)

@[simp] theorem after_nil (layout : MessageLayout) : after layout [] = new layout := rfl

@[simp] theorem after_concat (layout : MessageLayout) (history : List Window) (window : Window) :
    after layout (history ++ [window]) = (after layout history).absorb window := by
  simp [after]

@[simp] theorem layout_after (layout : MessageLayout) (history : List Window) :
    (after layout history).layout = layout := by
  induction history using List.reverseRecOn with
  | nil => rfl
  | append_singleton history window inductionHypothesis =>
    rw [after_concat, layout_absorb, inductionHypothesis]

def HasCovered (layout : MessageLayout) (history : List Window) (field : Field) : Prop :=
  ∃ window ∈ history, window.FitsInto layout ∧ window.covers field = true

theorem hasCovered_concat {layout : MessageLayout} {history : List Window} {window : Window}
    {field : Field} :
    HasCovered layout (history ++ [window]) field ↔
      HasCovered layout history field ∨
        window.FitsInto layout ∧ window.covers field = true := by
  simp [HasCovered, or_and_right, exists_or]

section
variable {layout : MessageLayout} {history : List Window} {index : Nat} {field : Field}

theorem declared_after (history : List Window) (declared : layout.fields[index]? = some field) :
    (after layout history).layout.fields[index]? = some field := by
  rw [layout_after, declared]

theorem fitsInto_layout_after {window : Window} :
    window.FitsInto (after layout history).layout ↔ window.FitsInto layout := by
  rw [layout_after]

/-- A field is seen once a window that fits has covered it. -/
theorem unseen_after_iff (declared : layout.fields[index]? = some field) :
    (after layout history).readings[index]? = some .unseen ↔
      ¬ HasCovered layout history field := by
  induction history using List.reverseRecOn with
  | nil =>
    have bound : index < layout.fields.length := (List.getElem?_eq_some_iff.mp declared).1
    simp [new, bound, HasCovered]
  | append_singleton history window inductionHypothesis =>
    rw [after_concat, hasCovered_concat, not_or, ← inductionHypothesis]
    by_cases fits : window.FitsInto layout
    · rw [unseen_absorb_iff (fitsInto_layout_after.mpr fits) (declared_after history declared)]
      simp [fits]
    · rw [absorb_of_not_fits (fitsInto_layout_after.not.mpr fits)]
      simp [fits]

end

end Message

end HeatingBus
