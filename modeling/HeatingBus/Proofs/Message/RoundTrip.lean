import HeatingBus.Proofs.Field.RoundTrip
import HeatingBus.Proofs.Field.Windows
import HeatingBus.Proofs.Message.Writes

/-!
# Writes that are read back

The bytes that a message gives to write for a value are read back as that value once they stand in
the message, whatever else the message holds. The exception is a flag whose on value is zero: off is
written as zero too, and is read as on.
-/

namespace HeatingBus

open HeatingBus.Field

namespace Message

section
variable {message : Message} {name : String} {field : Field} {value : Value} {position : Nat}
  {bytes : Bytes}

/-- A write stands in the message as the bytes of its field. -/
theorem bytesIn?_overwrite_of_encodeWrite (named : message.layout.field? name = some field)
    (encoded : message.encodeWrite name value = .ok (position, bytes)) :
    field.bytesIn? (overwrite message.buffer bytes position) = some bytes := by
  have accepted := message.layout.check_field (MessageLayout.mem_of_field? named)
  obtain ⟨_, _, within⟩ := length_of_check accepted
  rw [finish] at within
  obtain ⟨other, namedToo, rfl, sized⟩ := exists_field_of_encodeWrite encoded
  cases named.symm.trans namedToo
  have fits : field.position + bytes.length ≤ message.buffer.length := by
    rw [message.buffer_length]
    omega
  have covered : field.liesWithin field.position bytes.length = true :=
    liesWithin_iff.mpr (by omega)
  rw [bytesIn?_overwrite_of_liesWithin fits covered, Nat.sub_self, List.drop_zero, ← sized,
    List.take_length]

/-- Any field but a bit is written as its value is encoded. -/
theorem encode_of_encodeWrite (named : message.layout.field? name = some field)
    (whole : ∀ bit, field.kind ≠ .boolean bit)
    (encoded : message.encodeWrite name value = .ok (position, bytes)) :
    field.encode value = .ok bytes := by
  simp only [encodeWrite, named] at encoded
  cases written : field.encode value with
  | error fault =>
    rw [written] at encoded
    cases encoded
  | ok found =>
    rw [written] at encoded
    cases encoded
    rfl

/-- What a field is read as from the bytes that are to be written to it. -/
theorem valueOf?_of_encodeWrite (named : message.layout.field? name = some field)
    (own : field.IsOwn value)
    (encoded : message.encodeWrite name value = .ok (position, bytes)) :
    field.valueOf? bytes = some value ↔ ¬ (field.kind = .flag 0 ∧ value = .bool false) := by
  have declared := MessageLayout.mem_of_field? named
  have accepted := message.layout.check_field declared
  by_cases boolean : ∃ bit, field.kind = .boolean bit
  · -- A bit is not encoded on its own, it is put into the byte that the message holds.
    obtain ⟨bit, kind⟩ := boolean
    obtain ⟨current, known⟩ := exists_current declared
    obtain ⟨on, truth, rfl⟩ := encodeWrite_of_boolean named kind known encoded
    cases own with
    | boolean _ _ =>
      cases truth
      simp [valueOf?_applyBit kind (bit_of_check accepted kind), kind]
    | integer other | multiple other | flag other | date other | dateTime other | text other =>
      rw [kind] at other
      cases other
  · have written := encode_of_encodeWrite named (not_exists.mp boolean) encoded
    exact valueOf?_of_encode accepted own written

/-- A value that a message gives bytes to write for is read back once they stand in the message,
unless it is off and the field is a flag whose on value is zero. -/
theorem decode_of_encodeWrite_iff (named : message.layout.field? name = some field)
    (own : field.IsOwn value)
    (encoded : message.encodeWrite name value = .ok (position, bytes)) :
    field.decode (overwrite message.buffer bytes position) = .ok value ↔
      ¬ (field.kind = .flag 0 ∧ value = .bool false) := by
  rw [← valueOf?_of_encodeWrite named own encoded, decode_eq_ok_iff,
    bytesIn?_overwrite_of_encodeWrite named encoded]
  simp

end

/-! ## A flag that is never off -/

def programmeShift : Field :=
  Field.integer 1 2 "shift" "Shift of the programme" |>.signed |>.multipliedBy 5

/-- A message with a flag that is on for zero, and a shift after it. -/
def valveLayout : MessageLayout where
  row := .acceptingWrites <| .readOnly 0x40 "Valve" 3
    [.flag 0 0x00 "closed" "Valve closed", programmeShift]
  index := _
  accepted := rfl

/-- A negative shift is read back from the message that it was written to. -/
theorem decode_of_encodeWrite_shift :
    (new valveLayout).layout.field? "shift" = some programmeShift ∧
      programmeShift.IsOwn (.integer (-1280)) ∧
      (new valveLayout).encodeWrite "shift" (.integer (-1280)) = .ok (1, [0xFF, 0x00]) ∧
      programmeShift.decode (overwrite (new valveLayout).buffer [0xFF, 0x00] 1) =
        .ok (.integer (-1280)) := by
  have named : (new valveLayout).layout.field? "shift" = some programmeShift := rfl
  have own : programmeShift.IsOwn (.integer (-1280)) := .multiple rfl _ (by decide)
  have encoded : (new valveLayout).encodeWrite "shift" (.integer (-1280)) =
      .ok (1, [0xFF, 0x00]) := rfl
  have noFlag : ¬ (programmeShift.kind = .flag 0 ∧
      Value.integer (-1280) = .bool false) := by
    rintro ⟨kind, _⟩
    cases kind
  exact ⟨named, own, encoded, (decode_of_encodeWrite_iff named own encoded).mpr noFlag⟩

/-- Off is written to a flag that is on for zero, and it is read back as on. -/
theorem not_decode_of_encodeWrite :
    ¬ ∀ (message : Message) (name : String) (field : Field) (value : Value) (position : Nat)
        (bytes : Bytes), message.layout.field? name = some field → field.IsOwn value →
        message.encodeWrite name value = .ok (position, bytes) →
        field.decode (overwrite message.buffer bytes position) = .ok value := by
  intro always
  have named : (new valveLayout).layout.field? "closed" =
      some (.flag 0 0x00 "closed" "Valve closed") := rfl
  have read := always (new valveLayout) "closed" _ (.bool false) 0 [0x00] named (.flag rfl false)
    rfl
  cases read

end Message

end HeatingBus
