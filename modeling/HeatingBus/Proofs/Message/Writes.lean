import HeatingBus.Message.Basic
import HeatingBus.Proofs.Message.Layouts

/-!
# Bytes to write

What a message gives to write for a value of one of its fields. It gives as many bytes as the field
has, or it says that the value cannot be encoded; a boolean field has the byte of the message that
it is a bit of, with that bit changed.
-/

namespace HeatingBus

open HeatingBus.Field

section
variable {field : Field} {value : Value} {message : Message} {name : String} {bytes : Bytes}

theorem Field.length_of_encode (encoded : field.encode value = .ok bytes) :
    bytes.length = field.length := by
  rw [encode] at encoded
  cases unsized : field.unsizedBytes value with
  | error fault =>
    rw [unsized] at encoded
    cases encoded
  | ok found =>
    rw [unsized] at encoded
    simp only [bind, Except.bind] at encoded
    split at encoded
    · rename_i same
      cases encoded
      exact same
    · cases encoded

namespace Message

/-- The byte that a boolean field is a bit of. -/
theorem exists_current (declared : field ∈ message.layout.fields) :
    ∃ current, message.buffer[field.position]? = some current := by
  obtain ⟨least, _, within⟩ := length_of_check (message.layout.check_field declared)
  rw [finish] at within
  have bound : field.position < message.buffer.length := by
    rw [message.buffer_length]
    omega
  exact ⟨_, List.getElem?_eq_getElem bound⟩

theorem bitWrite_eq (declared : field ∈ message.layout.fields) {bit : UInt8}
    (boolean : field.kind = .boolean bit) {current : UInt8}
    (known : message.buffer[field.position]? = some current) :
    message.bitWrite field value =
      match value.asBool? with
      | none => .error (.encode (.typeMismatch field.kind.name value.typeName))
      | some on => .ok [field.applyBit current on] := by
  have isBit : field.bit?.isSome = true := by
    rw [bit?, boolean]
    rfl
  obtain ⟨group, found, own⟩ := MessageLayout.exists_bitGroup? declared isBit
  rw [bitWrite]
  cases value.asBool? with
  | none => rfl
  | some on => simp [found, known, BitGroup.merge?, isBit, own]

/-- A boolean field is written as the byte of the message that it is a bit of. -/
theorem encodeWrite_of_boolean (named : message.layout.field? name = some field) {bit : UInt8}
    (boolean : field.kind = .boolean bit) {current : UInt8}
    (known : message.buffer[field.position]? = some current) {position : Nat}
    (encoded : message.encodeWrite name value = .ok (position, bytes)) :
    ∃ on, value.asBool? = some on ∧ bytes = [field.applyBit current on] := by
  simp only [encodeWrite, named, boolean,
    bitWrite_eq (MessageLayout.mem_of_field? named) boolean known] at encoded
  cases truth : value.asBool? with
  | none =>
    rw [truth] at encoded
    cases encoded
  | some on =>
    rw [truth] at encoded
    cases encoded
    exact ⟨on, rfl, rfl⟩

/-- A declared field is written in as many bytes as it has, or the value cannot be encoded. -/
theorem encodeWrite_cases (named : message.layout.field? name = some field) (value : Value) :
    (∃ fault, message.encodeWrite name value = .error (.encode fault)) ∨
      ∃ bytes, message.encodeWrite name value = .ok (field.position, bytes) ∧
        bytes.length = field.length := by
  have declared := MessageLayout.mem_of_field? named
  have accepted := message.layout.check_field declared
  simp only [encodeWrite, named]
  split
  · rename_i bit boolean
    obtain ⟨current, known⟩ := exists_current declared
    rw [bitWrite_eq declared boolean known]
    cases value.asBool? with
    | none => exact .inl ⟨_, rfl⟩
    | some on =>
      have single := lengthBounds_of_check accepted
      rw [boolean, FieldKind.lengthBounds] at single
      exact .inr ⟨_, rfl, Nat.le_antisymm single.1 single.2.1⟩
  · cases encoded : field.encode value with
    | error fault => exact .inl ⟨fault, rfl⟩
    | ok bytes => exact .inr ⟨bytes, rfl, length_of_encode encoded⟩

/-- A write is one of a declared field, at its place and of its length. -/
theorem exists_field_of_encodeWrite {position : Nat}
    (encoded : message.encodeWrite name value = .ok (position, bytes)) :
    ∃ field, message.layout.field? name = some field ∧ position = field.position ∧
      bytes.length = field.length := by
  cases named : message.layout.field? name with
  | none =>
    simp only [encodeWrite, named] at encoded
    cases encoded
  | some field =>
    rcases encodeWrite_cases named value with ⟨fault, failed⟩ | ⟨found, written, sized⟩
    · rw [failed] at encoded
      cases encoded
    · rw [written] at encoded
      cases encoded
      exact ⟨field, rfl, rfl, sized⟩

end Message

end

end HeatingBus
