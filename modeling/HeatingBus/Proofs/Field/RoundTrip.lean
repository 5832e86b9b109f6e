import HeatingBus.Proofs.Field.Bits
import HeatingBus.Proofs.Field.Dates
import HeatingBus.Proofs.Field.Numbers
import HeatingBus.Proofs.Field.Rules
import HeatingBus.Proofs.Text.LatinNine

/-!
# Values and bytes of a field

For every kind of field that holds its values exactly, the bytes that a value is written to are the
only ones that it is read from. Such fields are the integers without a divisor, the dates, the
timestamps and the texts; a bit and a flag have one value for many bytes, and a divided integer is
read as a decimal.
-/

namespace HeatingBus

open Calendar Text

/-- Whether the fields of a kind tell all their bytes apart. -/
def FieldKind.IsReversible : FieldKind → Prop
  | integer none _ | integer (some (.multiply _)) _ | date | dateTime | text => True
  | integer (some (.divide _)) _ | boolean _ | flag _ => False

namespace Field

variable {field : Field} {messageLength : Nat} {buffer bytes : Bytes} {value : Value}

/-! ## Reading -/

def valueOf? (field : Field) (bytes : Bytes) : Option Value :=
  match field.kind with
  | .integer scale signed => some (integerOfBytes scale signed bytes)
  | .boolean bit => some (.bool (bytes.headD 0 &&& bitMask bit != 0))
  | .flag onValue => some (.bool (bytes.headD 0 = onValue))
  | .date => dateOfBytes? bytes
  | .dateTime => dateTimeOfBytes? bytes
  | .text => some (.text (LatinNine.decode bytes))

theorem decode_eq_ok_iff :
    field.decode buffer = .ok value ↔
      ∃ bytes, field.bytesIn? buffer = some bytes ∧ field.valueOf? bytes = some value := by
  rw [decode]
  cases found : field.bytesIn? buffer with
  | none => simp
  | some bytes =>
    simp only [Option.some.injEq, exists_eq_left']
    cases kind : field.kind with
    | integer scale signed => simp [valueOf?, kind]
    | boolean bit => simp [valueOf?, kind]
    | flag onValue => simp [valueOf?, kind]
    | date =>
      simp only [valueOf?, kind]
      cases dateOfBytes? bytes <;> simp
    | dateTime =>
      simp only [valueOf?, kind]
      cases dateTimeOfBytes? bytes <;> simp
    | text => simp [valueOf?, kind]

theorem bytesIn?_eq_some_iff :
    field.bytesIn? buffer = some bytes ↔
      field.finish ≤ buffer.length ∧ (buffer.drop field.position).take field.length = bytes := by
  rw [bytesIn?]
  split
  · rename_i within
    simp [within]
  · rename_i beyond
    simp [beyond]

theorem length_of_bytesIn? (found : field.bytesIn? buffer = some bytes) :
    bytes.length = field.length := by
  obtain ⟨within, rfl⟩ := bytesIn?_eq_some_iff.mp found
  rw [finish] at within
  rw [List.length_take, List.length_drop]
  omega

/-! ## Writing -/

theorem encode_eq_ok_iff :
    field.encode value = .ok bytes ↔
      bytes.length = field.length ∧ field.unsizedBytes value = .ok bytes := by
  rw [encode]
  cases field.unsizedBytes value with
  | error fault => simp [bind, Except.bind]
  | ok found =>
    simp only [bind, Except.bind, Except.ok.injEq]
    split
    · rename_i sized
      constructor
      · intro same
        cases same
        exact ⟨sized, rfl⟩
      · rintro ⟨_, rfl⟩
        rfl
    · rename_i unsized
      refine iff_of_false nofun ?_
      rintro ⟨sized, rfl⟩
      exact unsized sized

/-- Whether a value is of the type that a field is read as, and has nothing that the field has no
room for: a multiple of the factor of a multiplied integer, a timestamp to the second, or to the
minute in a field without a byte for the second. -/
inductive IsOwn (field : Field) : Value → Prop where
  | integer {signed : Bool} (kind : field.kind = .integer none signed) (number : Int64) :
      IsOwn field (.integer number)
  | multiple {factor : UInt16} {signed : Bool}
      (kind : field.kind = .integer (some (.multiply factor)) signed) (number : Int64)
      (divides : (factor.toNat : Int) ∣ number.toInt) : IsOwn field (.integer number)
  | boolean {bit : UInt8} (kind : field.kind = .boolean bit) (on : Bool) : IsOwn field (.bool on)
  | flag {onValue : UInt8} (kind : field.kind = .flag onValue) (on : Bool) :
      IsOwn field (.bool on)
  | date (kind : field.kind = .date) (date : Date) : IsOwn field (.date date)
  | dateTime (kind : field.kind = .dateTime) (timestamp : Timestamp) (reservedBit : Bool)
      (fits : FitsLength timestamp field.length) : IsOwn field (.dateTime timestamp reservedBit)
  | text (kind : field.kind = .text) (text : String) : IsOwn field (.text text)

/-! ## Both ways -/

theorem text_mapError_eq_ok_iff {text : String} :
    (LatinNine.encode text).mapError EncodeError.unrepresentable = .ok bytes ↔
      LatinNine.decode bytes = text := by
  rw [← LatinNine.encode_eq_ok_iff]
  cases LatinNine.encode text with
  | error other => exact iff_of_false nofun nofun
  | ok found =>
    constructor
    · intro mapped
      cases mapped
      rfl
    · intro encoded
      cases encoded
      rfl

theorem valueOf?_applyBit {bit byte : UInt8} (kind : field.kind = .boolean bit) (bound : bit ≤ 7)
    (on : Bool) : field.valueOf? [field.applyBit byte on] = some (.bool on) := by
  have place : bit.toNat < 8 := Nat.lt_succ_of_le (UInt8.le_iff_toNat_le.mp bound)
  have set : (field.applyBit byte on).toNat.testBit bit.toNat = on := by
    rw [testBit_applyBit kind bound on place, if_pos rfl]
  simp only [valueOf?, kind, List.headD_cons]
  rw [bitMask_eq_mask, OnlineBitmap.and_mask place, set]

/-- A byte of a flag is read as on if it is the on value, be it written for on or for off. -/
theorem valueOf?_flag {onValue : UInt8} (kind : field.kind = .flag onValue) (on : Bool) :
    field.valueOf? [if on then onValue else 0] = some (.bool on) ↔
      ¬ (field.kind = .flag 0 ∧ Value.bool on = .bool false) := by
  cases on with
  | true => simp [valueOf?, kind]
  | false => simp [valueOf?, kind, eq_comm]

/-- What a field is read as from the bytes that one of its own values was written to: that value,
unless off was written to a flag whose on value is the byte for off. -/
theorem valueOf?_of_encode (accepted : field.check messageLength = .ok ())
    (own : field.IsOwn value) (encoded : field.encode value = .ok bytes) :
    field.valueOf? bytes = some value ↔ ¬ (field.kind = .flag 0 ∧ value = .bool false) := by
  have bounds := lengthBounds_of_check accepted
  obtain ⟨sized, written⟩ := encode_eq_ok_iff.mp encoded
  cases own with
  | integer kind number =>
    simp only [kind, FieldKind.lengthBounds] at bounds
    simp only [unsizedBytes, kind] at written
    have read := ((bytesOfInteger_none_eq_ok_iff bounds.2.1).mp written).2
    simp [valueOf?, kind, read]
  | @multiple factor signed kind number divides =>
    simp only [kind, FieldKind.lengthBounds] at bounds
    simp only [unsizedBytes, kind] at written
    have positive : factor ≠ 0 := factor_of_check accepted kind
    have read :=
      ((bytesOfInteger_multiply_eq_ok_iff bounds.2.1 positive).mp ⟨divides, written⟩).2
    simp [valueOf?, kind, read]
  | boolean kind on =>
    simp only [unsizedBytes, kind, Except.ok.injEq] at written
    subst written
    simp [valueOf?_applyBit kind (bit_of_check accepted kind), kind]
  | flag kind on =>
    simp only [unsizedBytes, kind, Except.ok.injEq] at written
    subst written
    exact valueOf?_flag kind on
  | date kind date =>
    simp only [unsizedBytes, kind] at written
    have read := (bytesOfDate_eq_ok_iff.mp written).2
    simp [valueOf?, kind, read]
  | dateTime kind timestamp reservedBit fits =>
    simp only [kind, FieldKind.lengthBounds] at bounds
    simp only [unsizedBytes, kind] at written
    have read := ((bytesOfDateTime_eq_ok_iff (by omega)).mp ⟨fits, written⟩).2
    simp [valueOf?, kind, read]
  | text kind text =>
    simp only [unsizedBytes, kind] at written
    have read := text_mapError_eq_ok_iff.mp written
    simp [valueOf?, kind, read]

/-- A field of a reversible kind writes a value to the bytes that it reads the value from. -/
theorem encode_of_valueOf? (accepted : field.check messageLength = .ok ())
    (reversible : field.kind.IsReversible) (sized : bytes.length = field.length)
    (read : field.valueOf? bytes = some value) : field.encode value = .ok bytes := by
  have bounds := lengthBounds_of_check accepted
  refine encode_eq_ok_iff.mpr ⟨sized, ?_⟩
  cases kind : field.kind with
  | integer scale signed =>
    simp only [kind, FieldKind.lengthBounds] at bounds
    simp only [valueOf?, kind, Option.some.injEq] at read
    cases scale with
    | none =>
      subst read
      simp only [unsizedBytes, kind]
      exact (bytesOfInteger_none_eq_ok_iff bounds.2.1).mpr ⟨sized, rfl⟩
    | some scale =>
      cases scale with
      | divide factor => simp [kind, FieldKind.IsReversible] at reversible
      | multiply factor =>
        have positive : factor ≠ 0 := factor_of_check accepted kind
        -- Writing divides by the factor, and what was read is a multiple of it.
        have product := integerOfBytes_multiply factor signed bytes
        rw [product] at read
        subst read
        simp only [unsizedBytes, kind]
        exact ((bytesOfInteger_multiply_eq_ok_iff bounds.2.1 positive).mpr ⟨sized, product⟩).2
  | boolean bit => simp [kind, FieldKind.IsReversible] at reversible
  | flag onValue => simp [kind, FieldKind.IsReversible] at reversible
  | date =>
    simp only [kind, FieldKind.lengthBounds] at bounds
    simp only [valueOf?, kind] at read
    obtain ⟨date, rfl⟩ := exists_date_of_dateOfBytes? read
    simp only [unsizedBytes, kind]
    exact bytesOfDate_eq_ok_iff.mpr ⟨by omega, read⟩
  | dateTime =>
    simp only [kind, FieldKind.lengthBounds] at bounds
    simp only [valueOf?, kind] at read
    obtain ⟨timestamp, reservedBit, rfl⟩ := exists_timestamp_of_dateTimeOfBytes? read
    simp only [unsizedBytes, kind]
    exact ((bytesOfDateTime_eq_ok_iff (by omega)).mpr ⟨sized, read⟩).2
  | text =>
    simp only [valueOf?, kind, Option.some.injEq] at read
    subst read
    simp only [unsizedBytes, kind]
    exact text_mapError_eq_ok_iff.mpr rfl

/-! ## Main statement -/

/-- What a field of a reversible kind decodes to is encoded to the field's bytes in the buffer again;
so any other bytes decode to another value. -/
theorem encode_of_decode (accepted : field.check messageLength = .ok ())
    (reversible : field.kind.IsReversible) (decoded : field.decode buffer = .ok value) :
    field.encode value = .ok ((buffer.drop field.position).take field.length) ∧
      ∀ other : Bytes, field.decode other = .ok value →
        (other.drop field.position).take field.length =
          (buffer.drop field.position).take field.length := by
  have encoded {buffer : Bytes} (decoded : field.decode buffer = .ok value) :
      field.encode value = .ok ((buffer.drop field.position).take field.length) := by
    obtain ⟨bytes, found, read⟩ := decode_eq_ok_iff.mp decoded
    obtain ⟨_, rfl⟩ := bytesIn?_eq_some_iff.mp found
    exact encode_of_valueOf? accepted reversible (length_of_bytesIn? found) read
  refine ⟨encoded decoded, fun other otherDecoded => ?_⟩
  have same := (encoded otherDecoded).symm.trans (encoded decoded)
  exact Except.ok.inj same

def leapDayEvening : Timestamp :=
  ⟨⟨2024, 2, 29, by decide⟩, ⟨23, 59, 58, 0, by decide⟩⟩

/-- A timestamp with the reserved bit of its year byte, amid other bytes. -/
theorem encode_of_decode_leapDayEvening :
    (Field.dateTime 1 6 "clock" "Clock").check 8 = .ok () ∧
      (Field.dateTime 1 6 "clock" "Clock").kind.IsReversible ∧
      (Field.dateTime 1 6 "clock" "Clock").decode [0xFF, 0x98, 2, 23, 29, 59, 58, 0xFF] =
        .ok (.dateTime leapDayEvening true) ∧
      (Field.dateTime 1 6 "clock" "Clock").encode (.dateTime leapDayEvening true) =
        .ok [0x98, 2, 23, 29, 59, 58] := by
  have accepted : (Field.dateTime 1 6 "clock" "Clock").check 8 = .ok () := rfl
  have decoded : (Field.dateTime 1 6 "clock" "Clock").decode
      [0xFF, 0x98, 2, 23, 29, 59, 58, 0xFF] = .ok (.dateTime leapDayEvening true) := rfl
  exact ⟨accepted, trivial, decoded, (encode_of_decode accepted trivial decoded).1⟩

end Field

end HeatingBus
