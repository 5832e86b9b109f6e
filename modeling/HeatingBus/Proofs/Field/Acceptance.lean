import HeatingBus.Proofs.Field.RoundTrip
import Mathlib.Algebra.Group.Int.Defs

/-!
# Values that a field takes

A field takes exactly the values that it can be read as, as far as nothing has to be rounded. Of a
timestamp it leaves out what it has no byte for: the fraction of a second, and in five bytes the
second. Any other value is refused, and the fault says why.
-/

namespace HeatingBus

open Calendar Text

/-! ## Ranges -/

/-- Whether a number is one of so many bits, in two's complement if it has a sign. -/
def FitsBits (signed : Bool) (bits : Nat) (number : Int) : Prop :=
  if signed then -2 ^ (bits - 1) ≤ number ∧ number < 2 ^ (bits - 1)
  else 0 ≤ number ∧ number < 2 ^ bits

theorem rawFits_iff_fitsBits {signed : Bool} {length : Nat} {raw : Int} (positive : 1 ≤ length) :
    Field.RawFits signed length raw ↔ FitsBits signed (8 * length) raw := by
  have values : (byteValues length : Int) = 2 ^ (8 * length) := by
    rw [byteValues_eq_two_pow]
    norm_cast
  cases signed with
  | false => simp only [Field.RawFits, FitsBits, Bool.false_eq_true, if_false, values]
  | true =>
    -- Half of all values are negative.
    have half : (2 : Int) ^ (8 * length) = 2 * 2 ^ (8 * length - 1) := by
      rw [← Int.pow_succ', Nat.sub_add_cancel (by omega)]
    simp only [Field.RawFits, FitsBits, if_true, values, half]
    omega

/-! ## Timestamps without a fraction -/

/-- A timestamp to the second, or to the minute in as many bytes as have no room for the second. -/
def Calendar.Timestamp.truncatedTo (timestamp : Timestamp) (length : Nat) : Timestamp where
  date := timestamp.date
  time :=
    { hour := timestamp.time.hour
      minute := timestamp.time.minute
      second := if length = 5 then 0 else timestamp.time.second
      nanosecond := 0
      isTimeOfDay := by
        obtain ⟨hour, minute, second, _⟩ := timestamp.time.isTimeOfDay
        refine ⟨hour, minute, ?_, by decide⟩
        split <;> omega }

namespace Field

variable {field : Field} {value : Value} {messageLength : Nat} {bytes : Bytes}
  {fault : EncodeError}

theorem fitsLength_truncatedTo (timestamp : Timestamp) (length : Nat) :
    FitsLength (timestamp.truncatedTo length) length :=
  ⟨rfl, fun five => if_pos five⟩

theorem truncatedTo_of_fitsLength {timestamp : Timestamp} {length : Nat}
    (fits : FitsLength timestamp length) : timestamp.truncatedTo length = timestamp := by
  obtain ⟨date, ⟨hour, minute, second, nanosecond, isTimeOfDay⟩⟩ := timestamp
  obtain ⟨rfl, even⟩ : nanosecond = 0 ∧ (length = 5 → second = 0) := fits
  by_cases five : length = 5
  · obtain rfl := even five
    simp [Timestamp.truncatedTo, five]
  · simp [Timestamp.truncatedTo, five]

theorem bytesOfDateTime_eq_ok_iff_truncatedTo {length : Nat} (room : length = 5 ∨ length = 6)
    {timestamp : Timestamp} {reservedBit : Bool} :
    bytesOfDateTime length timestamp reservedBit = .ok bytes ↔
      bytesOfDateTime length (timestamp.truncatedTo length) reservedBit = .ok bytes := by
  simp only [bytesOfDateTime, Timestamp.truncatedTo]
  cases yearByte? timestamp.date.year 0x7F with
  | none => simp
  | some yearByte => rcases room with rfl | rfl <;> simp

/-! ## Types of values -/

inductive Suits (field : Field) : Value → Prop where
  | integer {scale : Option Scale} {signed : Bool} (kind : field.kind = .integer scale signed)
      (number : Int64) : Suits field (.integer number)
  | decimal {scale : Option Scale} {signed : Bool} (kind : field.kind = .integer scale signed)
      (number : Float) : Suits field (.decimal number)
  | boolean {bit : UInt8} (kind : field.kind = .boolean bit) (on : Bool) : Suits field (.bool on)
  | flag {onValue : UInt8} (kind : field.kind = .flag onValue) (on : Bool) : Suits field (.bool on)
  | date (kind : field.kind = .date) (date : Date) : Suits field (.date date)
  | dateTime (kind : field.kind = .dateTime) (timestamp : Timestamp) (reservedBit : Bool) :
      Suits field (.dateTime timestamp reservedBit)
  | text (kind : field.kind = .text) (text : String) : Suits field (.text text)

/-- Whether a field that holds a value at all holds it without rounding: the value is no decimal, no
number for a divided integer, and a multiple of the factor of a multiplied one. -/
def IsExact (field : Field) : Value → Prop
  | .decimal _ => False
  | .integer number =>
    match field.kind with
    | .integer (some (.divide _)) _ => False
    | .integer (some (.multiply factor)) _ => (factor.toNat : Int) ∣ number.toInt
    | _ => True
  | _ => True

/-- A value without what a field has no byte for. -/
def truncated (field : Field) : Value → Value
  | .dateTime timestamp reservedBit =>
    .dateTime (timestamp.truncatedTo field.length) reservedBit
  | value => value

theorem rawInteger_of_not_number {scale : Option Scale} {length : Nat}
    (other : value.asFloat? = none) :
    rawInteger scale length value = .error (.typeMismatch "integer" value.typeName) := by
  have rounded : roundedInteger scale length value =
      .error (.typeMismatch "integer" value.typeName) := by
    rw [roundedInteger, other]
  unfold rawInteger
  split
  · cases other
  · cases other
  · exact rounded

theorem unsizedBytes_of_not_suits (other : ¬ field.Suits value) :
    field.unsizedBytes value = .error (.typeMismatch field.kind.name value.typeName) := by
  cases kind : field.kind with
  | integer scale signed =>
    have noNumber : value.asFloat? = none := by
      cases value with
      | integer number => exact absurd (.integer kind number) other
      | decimal number => exact absurd (.decimal kind number) other
      | bool _ | date _ | dateTime _ _ | text _ => rfl
    simp only [unsizedBytes, kind, bytesOfInteger, rawInteger_of_not_number noNumber]
    rfl
  | boolean bit =>
    cases value with
    | bool on => exact absurd (.boolean kind on) other
    | integer _ | decimal _ | date _ | dateTime _ _ | text _ => simp only [unsizedBytes, kind]
  | flag onValue =>
    cases value with
    | bool on => exact absurd (.flag kind on) other
    | integer _ | decimal _ | date _ | dateTime _ _ | text _ => simp only [unsizedBytes, kind]
  | date =>
    cases value with
    | date date => exact absurd (.date kind date) other
    | integer _ | decimal _ | bool _ | dateTime _ _ | text _ => simp only [unsizedBytes, kind]
  | dateTime =>
    cases value with
    | dateTime timestamp reservedBit => exact absurd (.dateTime kind timestamp reservedBit) other
    | integer _ | decimal _ | bool _ | date _ | text _ => simp only [unsizedBytes, kind]
  | text =>
    cases value with
    | text text => exact absurd (.text kind text) other
    | integer _ | decimal _ | bool _ | date _ | dateTime _ _ => simp only [unsizedBytes, kind]

/-! ## Lengths -/

theorem length_of_bytesOfInteger {scale : Option Scale} {signed : Bool} {length : Nat}
    (written : bytesOfInteger scale signed length value = .ok bytes) : bytes.length = length := by
  cases isRaw : rawInteger scale length value with
  | error fault =>
    rw [bytesOfInteger, isRaw] at written
    cases written
  | ok raw => exact ((bytesOfInteger_eq_ok_iff isRaw).mp written).1

/-- What is written to a field that is no text is as long as the field. -/
theorem length_of_unsizedBytes (accepted : field.check messageLength = .ok ())
    (noText : field.kind ≠ .text) (written : field.unsizedBytes value = .ok bytes) :
    bytes.length = field.length := by
  have allowed := (check_eq_ok_iff.mp accepted).length
  by_cases suits : field.Suits value
  · cases suits with
    | integer kind number | decimal kind number =>
      simp only [unsizedBytes, kind] at written
      exact length_of_bytesOfInteger written
    | boolean kind on | flag kind on =>
      rw [kind] at allowed
      simp only [unsizedBytes, kind] at written
      cases written
      exact allowed.symm
    | date kind date =>
      rw [kind] at allowed
      simp only [unsizedBytes, kind] at written
      exact (bytesOfDate_eq_ok_iff.mp written).1.trans allowed.symm
    | dateTime kind timestamp reservedBit =>
      rw [kind] at allowed
      simp only [unsizedBytes, kind] at written
      -- What is known of the bytes of a timestamp is known of one without a rest.
      rw [bytesOfDateTime_eq_ok_iff_truncatedTo allowed] at written
      have fits := fitsLength_truncatedTo timestamp field.length
      exact ((bytesOfDateTime_eq_ok_iff allowed).mp ⟨fits, written⟩).1
    | text kind text => exact absurd kind noText
  · rw [unsizedBytes_of_not_suits suits] at written
    cases written

theorem encode_eq_unsizedBytes (accepted : field.check messageLength = .ok ())
    (noText : field.kind ≠ .text) : field.encode value = field.unsizedBytes value := by
  rw [encode]
  cases written : field.unsizedBytes value with
  | error fault => rfl
  | ok bytes => exact if_pos (length_of_unsizedBytes accepted noText written)

theorem encode_of_unsizedBytes (failed : field.unsizedBytes value = .error fault) :
    field.encode value = .error fault := by
  rw [encode, failed]
  rfl

theorem suits_of_encode (encoded : field.encode value = .ok bytes) : field.Suits value := by
  by_cases suits : field.Suits value
  · exact suits
  · rw [encode_of_unsizedBytes (unsizedBytes_of_not_suits suits)] at encoded
    cases encoded

theorem exists_encode_bool (accepted : field.check messageLength = .ok ()) {on : Bool}
    (suits : field.Suits (.bool on)) : ∃ bytes, field.encode (.bool on) = .ok bytes := by
  cases suits with
  | boolean kind | flag kind =>
    rw [encode_eq_unsizedBytes accepted (by simp [kind])]
    simp only [unsizedBytes, kind]
    exact ⟨_, rfl⟩

/-! ## Refused values -/

/-- Why a field refuses a value that it would not round. -/
inductive Refuses (field : Field) : Value → EncodeError → Prop where
  | type {value : Value} (other : ¬ field.Suits value) :
      Refuses field value (.typeMismatch field.kind.name value.typeName)
  | number {signed : Bool} (kind : field.kind = .integer none signed) (number : Int64)
      (beyond : ¬ FitsBits signed (8 * field.length) number.toInt) :
      Refuses field (.integer number) (.outOfRange (toString number.toInt) field.length)
  | multiple {factor : UInt16} {signed : Bool}
      (kind : field.kind = .integer (some (.multiply factor)) signed) (number : Int64) (raw : Int)
      (isRaw : number.toInt = raw * factor.toNat)
      (beyond : ¬ FitsBits signed (8 * field.length) raw) :
      Refuses field (.integer number) (.outOfRange (toString raw) field.length)
  | date (kind : field.kind = .date) (date : Date) (beyond : date.year < 2000 ∨ 2255 < date.year) :
      Refuses field (.date date) (.invalidDate date.text)
  | dateTime (kind : field.kind = .dateTime) (timestamp : Timestamp) (reservedBit : Bool)
      (beyond : timestamp.date.year < 2000 ∨ 2127 < timestamp.date.year) :
      Refuses field (.dateTime timestamp reservedBit) (.invalidDate timestamp.spacedText)
  | character (kind : field.kind = .text) (text : String) (c : Char)
      (first : LatinNine.IsFirstForeign text.toList c) :
      Refuses field (.text text) (.unrepresentable c)
  | length (kind : field.kind = .text) (text : String)
      (members : ∀ c ∈ text.toList, LatinNine.IsMember c) (other : text.length ≠ field.length) :
      Refuses field (.text text) (.lengthMismatch field.length text.length)

theorem exists_bytesOfInteger {scale : Option Scale} {signed : Bool} {length : Nat} {raw : Int64}
    (isRaw : rawInteger scale length value = .ok raw) (positive : 1 ≤ length)
    (fits : FitsBits signed (8 * length) raw.toInt) :
    ∃ bytes, bytesOfInteger scale signed length value = .ok bytes := by
  rw [← rawFits_iff_fitsBits positive] at fits
  simp only [bytesOfInteger, isRaw, bind, Except.bind, if_pos fits]
  exact ⟨_, rfl⟩

theorem bytesOfInteger_of_not_fitsBits {scale : Option Scale} {signed : Bool} {length : Nat}
    {raw : Int64} (isRaw : rawInteger scale length value = .ok raw) (positive : 1 ≤ length)
    (beyond : ¬ FitsBits signed (8 * length) raw.toInt) :
    bytesOfInteger scale signed length value =
      .error (.outOfRange (toString raw.toInt) length) := by
  rw [← rawFits_iff_fitsBits positive] at beyond
  simp only [bytesOfInteger, isRaw, bind, Except.bind, if_neg beyond]
  rfl

theorem yearByte?_eq_none_iff {year : Int} {greatest : Nat} :
    yearByte? year greatest = none ↔ year < 2000 ∨ 2000 + greatest < year := by
  have epoch : yearEpoch = 2000 := rfl
  simp only [yearByte?]
  split
  · rename_i within
    simp only [reduceCtorEq, false_iff]
    omega
  · rename_i outside
    simp only [true_iff]
    omega

/-- The raw number of a multiple is its quotient. -/
theorem rawInteger_of_multiple {factor : UInt16} {length : Nat} {number : Int64} {raw : Int}
    (positive : factor ≠ 0) (isRaw : number.toInt = raw * factor.toNat) :
    ∃ quotient : Int64, quotient.toInt = raw ∧
      rawInteger (some (.multiply factor)) length (.integer number) = .ok quotient := by
  have notZero : (factor.toNat : Int) ≠ 0 := by
    rw [Ne, Int.natCast_eq_zero]
    exact fun zero => positive (UInt16.toNat_inj.mp zero)
  refine ⟨_, ?_, rawInteger_of_dvd (isRaw ▸ Int.dvd_mul_left _ _)⟩
  rw [toInt_ofInt_tdiv, isRaw, Int.mul_tdiv_cancel _ notZero]

theorem Refuses.encode_eq (accepted : field.check messageLength = .ok ())
    (refuses : field.Refuses value fault) : field.encode value = .error fault := by
  have positive := (length_of_check accepted).1
  cases refuses with
  | type other => exact encode_of_unsizedBytes (unsizedBytes_of_not_suits other)
  | number kind number beyond =>
    apply encode_of_unsizedBytes
    simp only [unsizedBytes, kind]
    exact bytesOfInteger_of_not_fitsBits rfl positive beyond
  | multiple kind number raw isRaw beyond =>
    obtain ⟨quotient, rfl, written⟩ := rawInteger_of_multiple (factor_of_check accepted kind) isRaw
    apply encode_of_unsizedBytes
    simp only [unsizedBytes, kind]
    exact bytesOfInteger_of_not_fitsBits written positive beyond
  | date kind date beyond =>
    apply encode_of_unsizedBytes
    have none : yearByte? date.year 0xFF = none := yearByte?_eq_none_iff.mpr beyond
    simp only [unsizedBytes, kind, bytesOfDate, none]
  | dateTime kind timestamp reservedBit beyond =>
    apply encode_of_unsizedBytes
    have none : yearByte? timestamp.date.year 0x7F = none := yearByte?_eq_none_iff.mpr beyond
    simp only [unsizedBytes, kind, bytesOfDateTime, none]
  | character kind text c first =>
    apply encode_of_unsizedBytes
    simp only [unsizedBytes, kind, LatinNine.encode_eq_error_iff.mpr first]
    rfl
  | length kind text members other =>
    obtain ⟨bytes, encoded⟩ := LatinNine.exists_encode_eq_ok_iff.mpr members
    have sized := LatinNine.length_of_encode encoded
    rw [← sized] at other ⊢
    simp only [encode, unsizedBytes, kind, encoded]
    exact if_neg other

/-- A value is taken, or there is a fault for which it is refused. -/
theorem exists_encode_or_refuses (accepted : field.check messageLength = .ok ())
    (exact : field.IsExact value) :
    (∃ bytes, field.encode value = .ok bytes) ∨ ∃ fault, field.Refuses value fault := by
  have positive := (length_of_check accepted).1
  by_cases suits : field.Suits value
  -- A value of the right type has only the checks of its kind to pass.
  · cases suits with
    | @integer scale signed kind number =>
      rw [encode_eq_unsizedBytes accepted (by simp [kind])]
      simp only [unsizedBytes, kind]
      simp only [IsExact, kind] at exact
      cases scale with
      | none =>
        by_cases fits : FitsBits signed (8 * field.length) number.toInt
        · exact .inl (exists_bytesOfInteger rfl positive fits)
        · exact .inr ⟨_, .number kind number fits⟩
      | some scale =>
        cases scale with
        | divide factor => exact exact.elim
        | multiply factor =>
          obtain ⟨raw, isRaw⟩ := exact
          rw [Int.mul_comm] at isRaw
          obtain ⟨quotient, rfl, written⟩ :=
            rawInteger_of_multiple (factor_of_check accepted kind) isRaw
          by_cases fits : FitsBits signed (8 * field.length) quotient.toInt
          · exact .inl (exists_bytesOfInteger written positive fits)
          · exact .inr ⟨_, .multiple kind number _ isRaw fits⟩
    | decimal kind number => exact exact.elim
    | boolean kind on => exact .inl (exists_encode_bool accepted (.boolean kind on))
    | flag kind on => exact .inl (exists_encode_bool accepted (.flag kind on))
    | date kind date =>
      rw [encode_eq_unsizedBytes accepted (by simp [kind])]
      simp only [unsizedBytes, kind, bytesOfDate]
      cases year : yearByte? date.year 0xFF with
      | some yearByte => exact .inl ⟨_, rfl⟩
      | none => exact .inr ⟨_, .date kind date (yearByte?_eq_none_iff.mp year)⟩
    | dateTime kind timestamp reservedBit =>
      rw [encode_eq_unsizedBytes accepted (by simp [kind])]
      simp only [unsizedBytes, kind, bytesOfDateTime]
      cases year : yearByte? timestamp.date.year 0x7F with
      | some yearByte => exact .inl ⟨_, rfl⟩
      | none =>
        exact .inr ⟨_, .dateTime kind timestamp reservedBit (yearByte?_eq_none_iff.mp year)⟩
    | text kind text =>
      -- The characters are looked at before the length is.
      cases encoded : LatinNine.encode text with
      | error c => exact .inr ⟨_, .character kind text c (LatinNine.encode_eq_error_iff.mp encoded)⟩
      | ok bytes =>
        by_cases sized : text.length = field.length
        · refine .inl ⟨bytes, encode_eq_ok_iff.mpr ⟨?_, ?_⟩⟩
          · rw [LatinNine.length_of_encode encoded, sized]
          · simp only [unsizedBytes, kind, encoded]
            rfl
        · have members := LatinNine.exists_encode_eq_ok_iff.mp ⟨bytes, encoded⟩
          exact .inr ⟨_, .length kind text members sized⟩
  · exact .inr ⟨_, .type suits⟩

theorem encode_eq_error_iff_refuses (accepted : field.check messageLength = .ok ())
    (exact : field.IsExact value) :
    field.encode value = .error fault ↔ field.Refuses value fault := by
  constructor
  · intro failed
    rcases exists_encode_or_refuses accepted exact with ⟨bytes, encoded⟩ | ⟨other, refuses⟩
    · rw [failed] at encoded
      cases encoded
    · have same := refuses.encode_eq accepted
      rw [failed, Except.error.injEq] at same
      rwa [same]
  · exact Refuses.encode_eq accepted

theorem rawInteger_ne_lengthMismatch {scale : Option Scale} {length expected actual : Nat} :
    rawInteger scale length value ≠ .error (.lengthMismatch expected actual) := by
  have rounded : roundedInteger scale length value ≠
      .error (.lengthMismatch expected actual) := by
    rw [roundedInteger]
    cases value.asFloat? with
    | none => simp
    | some number =>
      dsimp only
      split
      · split <;> simp
      · simp
  unfold rawInteger
  split
  · simp
  · split
    · simp
    · exact rounded
  · exact rounded

theorem unsizedBytes_ne_lengthMismatch {expected actual : Nat} :
    field.unsizedBytes value ≠ .error (.lengthMismatch expected actual) := by
  have number {scale : Option Scale} {signed : Bool} {length : Nat} :
      bytesOfInteger scale signed length value ≠ .error (.lengthMismatch expected actual) := by
    cases isRaw : rawInteger scale length value with
    | error fault =>
      simp only [bytesOfInteger, isRaw, bind, Except.bind]
      intro same
      cases same
      exact rawInteger_ne_lengthMismatch isRaw
    | ok raw =>
      simp only [bytesOfInteger, isRaw, bind, Except.bind]
      split <;> simp [throw, throwThe, MonadExceptOf.throw, pure, Except.pure]
  by_cases suits : field.Suits value
  · cases suits with
    | integer kind _ | decimal kind _ =>
      simp only [unsizedBytes, kind]
      exact number
    | boolean kind on | flag kind on => simp [unsizedBytes, kind]
    | date kind date =>
      simp only [unsizedBytes, kind, bytesOfDate]
      split <;> simp
    | dateTime kind timestamp reservedBit =>
      simp only [unsizedBytes, kind, bytesOfDateTime]
      split <;> simp
    | text kind text =>
      simp only [unsizedBytes, kind]
      cases LatinNine.encode text with
      | error c =>
        intro same
        cases same
      | ok bytes =>
        intro same
        cases same
  · simp [unsizedBytes_of_not_suits suits]

/-- Only a text is refused for its length, whatever the value is. -/
theorem kind_of_lengthMismatch (accepted : field.check messageLength = .ok ())
    {expected actual : Nat}
    (failed : field.encode value = .error (.lengthMismatch expected actual)) :
    field.kind = .text := by
  by_cases text : field.kind = .text
  · exact text
  · rw [encode_eq_unsizedBytes accepted text] at failed
    exact absurd failed unsizedBytes_ne_lengthMismatch

/-! ## Values that are read -/

/-- What a field is read as somewhere is what some bytes of its length are read as. -/
theorem exists_decode_iff :
    (∃ buffer, field.decode buffer = .ok value) ↔
      ∃ bytes : Bytes, bytes.length = field.length ∧ field.valueOf? bytes = some value := by
  constructor
  · rintro ⟨buffer, decoded⟩
    obtain ⟨bytes, found, read⟩ := decode_eq_ok_iff.mp decoded
    exact ⟨bytes, length_of_bytesIn? found, read⟩
  · rintro ⟨bytes, sized, read⟩
    -- A message that ends with the field has its bytes after any others.
    refine ⟨List.replicate field.position 0 ++ bytes, decode_eq_ok_iff.mpr ⟨bytes, ?_, read⟩⟩
    refine bytesIn?_eq_some_iff.mpr ⟨?_, ?_⟩
    · simp [finish, sized]
    · rw [List.drop_left' List.length_replicate, ← sized, List.take_length]

theorem encode_eq_ok_iff_truncated (accepted : field.check messageLength = .ok ()) :
    field.encode value = .ok bytes ↔ field.encode (field.truncated value) = .ok bytes := by
  cases value with
  | integer _ | decimal _ | bool _ | date _ | text _ => rfl
  | dateTime timestamp reservedBit =>
    have allowed := (check_eq_ok_iff.mp accepted).length
    by_cases kind : field.kind = .dateTime
    · rw [kind] at allowed
      rw [encode_eq_ok_iff, encode_eq_ok_iff]
      refine and_congr_right fun _ => ?_
      simp only [unsizedBytes, kind, truncated]
      exact bytesOfDateTime_eq_ok_iff_truncatedTo allowed
    · -- A field of another kind takes neither of them.
      have other (timestamp : Timestamp) :
          field.encode (.dateTime timestamp reservedBit) ≠ .ok bytes := by
        intro encoded
        cases suits_of_encode encoded with
        | dateTime same => exact kind same
      exact iff_of_false (other _) (other _)

theorem isOwn_truncated (exact : field.IsExact value) (suits : field.Suits value) :
    field.IsOwn (field.truncated value) := by
  cases suits with
  | @integer scale signed kind number =>
    simp only [IsExact, kind] at exact
    cases scale with
    | none => exact .integer kind number
    | some scale =>
      cases scale with
      | divide factor => exact exact.elim
      | multiply factor => exact .multiple kind number exact
  | decimal kind number => exact exact.elim
  | boolean kind on => exact .boolean kind on
  | flag kind on => exact .flag kind on
  | date kind date => exact .date kind date
  | dateTime kind timestamp reservedBit =>
    exact .dateTime kind _ reservedBit (fitsLength_truncatedTo timestamp field.length)
  | text kind text => exact .text kind text

theorem isExact_truncated (exact : field.IsExact value) :
    field.IsExact (field.truncated value) := by
  cases value <;> exact exact

/-- What a field is read as is taken, if nothing had to be rounded for it. -/
theorem exists_encode_of_valueOf? (accepted : field.check messageLength = .ok ())
    (exact : field.IsExact value) (sized : bytes.length = field.length)
    (read : field.valueOf? bytes = some value) : ∃ written, field.encode value = .ok written := by
  by_cases reversible : field.kind.IsReversible
  · exact ⟨bytes, encode_of_valueOf? accepted reversible sized read⟩
  · cases kind : field.kind with
    | boolean bit =>
      simp only [valueOf?, kind, Option.some.injEq] at read
      subst read
      exact exists_encode_bool accepted (.boolean kind _)
    | flag onValue =>
      simp only [valueOf?, kind, Option.some.injEq] at read
      subst read
      exact exists_encode_bool accepted (.flag kind _)
    | integer scale signed =>
      rw [kind] at reversible
      cases scale with
      | none => exact absurd trivial reversible
      | some scale =>
        cases scale with
        | multiply factor => exact absurd trivial reversible
        | divide factor =>
          -- A quotient is read as a decimal.
          simp only [valueOf?, kind, integerOfBytes, Option.some.injEq] at read
          subst read
          exact exact.elim
    | date | dateTime | text =>
      rw [kind] at reversible
      exact absurd trivial reversible

theorem exists_encode_iff (accepted : field.check messageLength = .ok ())
    (exact : field.IsExact value) :
    (∃ bytes, field.encode value = .ok bytes) ↔
      ∃ buffer, field.decode buffer = .ok (field.truncated value) := by
  have allowed := (check_eq_ok_iff.mp accepted).length
  rw [exists_decode_iff]
  constructor
  · rintro ⟨bytes, encoded⟩
    have own := isOwn_truncated exact (suits_of_encode encoded)
    rw [encode_eq_ok_iff_truncated accepted] at encoded
    by_cases off : field.kind = .flag 0 ∧ field.truncated value = .bool false
    · -- Off is written to such a flag as the byte for on, but other bytes are read as off.
      rw [off.1] at allowed
      exact ⟨[1], allowed.symm, by simp [valueOf?, off.1, off.2]⟩
    · have read := (valueOf?_of_encode accepted own encoded).mpr off
      exact ⟨bytes, (encode_eq_ok_iff.mp encoded).1, read⟩
  · rintro ⟨bytes, sized, read⟩
    obtain ⟨written, encoded⟩ :=
      exists_encode_of_valueOf? accepted (isExact_truncated exact) sized read
    exact ⟨written, (encode_eq_ok_iff_truncated accepted).mpr encoded⟩

/-! ## Main statement -/

theorem truncated_eq_or (field : Field) (value : Value) :
    field.truncated value = value ∨
      ∃ timestamp reservedBit, value = .dateTime timestamp reservedBit ∧
        ¬ FitsLength timestamp field.length := by
  cases value with
  | integer _ | decimal _ | bool _ | date _ | text _ => exact .inl rfl
  | dateTime timestamp reservedBit =>
    by_cases fits : FitsLength timestamp field.length
    · exact .inl (by rw [truncated, truncatedTo_of_fitsLength fits])
    · exact .inr ⟨timestamp, reservedBit, rfl, fits⟩

/-- A field takes a value that it would not round if and only if some message is read as the value,
or as what the field has bytes for of a timestamp; it gives as many bytes as it has, and refuses any
other value for the reason it has. -/
theorem encode_of_isExact (accepted : field.check messageLength = .ok ())
    (exact : field.IsExact value) :
    ((∃ bytes, field.encode value = .ok bytes) ↔
        ∃ buffer, field.decode buffer = .ok (field.truncated value)) ∧
      (field.truncated value = value ∨
        ∃ timestamp reservedBit, value = .dateTime timestamp reservedBit ∧
          ¬ FitsLength timestamp field.length) ∧
      (∀ bytes, field.encode value = .ok bytes → bytes.length = field.length) ∧
      (∀ fault, field.encode value = .error fault ↔ field.Refuses value fault) ∧
      ∀ other expected actual,
        field.encode other = .error (.lengthMismatch expected actual) → field.kind = .text :=
  ⟨exists_encode_iff accepted exact, truncated_eq_or field value,
    fun _ encoded => (encode_eq_ok_iff.mp encoded).1,
    fun _ => encode_eq_error_iff_refuses accepted exact,
    fun _ _ _ => kind_of_lengthMismatch accepted⟩

def signedTens : Field := ((Field.integer 2 1 "offset" "Offset").multipliedBy 10).signed

/-- The quotient 128 is one more than such a byte holds, so no message is read as 1280. -/
theorem encode_of_isExact_signedTens :
    signedTens.check 3 = .ok () ∧ signedTens.IsExact (.integer 1280) ∧
      signedTens.encode (.integer 1280) = .error (.outOfRange "128" 1) ∧
      ∀ buffer, signedTens.decode buffer ≠ .ok (.integer 1280) := by
  have accepted : signedTens.check 3 = .ok () := rfl
  have exact : signedTens.IsExact (.integer 1280) := ⟨128, by decide⟩
  have beyond : ¬ FitsBits true 8 128 := by simp [FitsBits]
  have refuses : signedTens.Refuses (.integer 1280) (.outOfRange "128" 1) :=
    .multiple rfl 1280 128 (by decide) beyond
  obtain ⟨taken, _, _, refused, _⟩ := encode_of_isExact accepted exact
  have encoded := (refused _).mpr refuses
  refine ⟨accepted, exact, encoded, fun buffer decoded => ?_⟩
  obtain ⟨bytes, written⟩ := taken.mpr ⟨buffer, decoded⟩
  rw [encoded] at written
  cases written

def halfPast : Timestamp where
  date := ⟨2025, 6, 14, by decide⟩
  time := ⟨10, 30, 0, 500000000, by decide⟩

/-- A fraction of a second is left out, although there is a byte for the second: the timestamp is
taken, and no message is read as it. -/
theorem not_encode_of_halfPast :
    ¬ ∀ (field : Field) (messageLength : Nat) (value : Value),
        field.check messageLength = .ok () → field.IsExact value →
        (field.kind = .dateTime → field.length = 6) →
        ((∃ bytes, field.encode value = .ok bytes) ↔ ∃ buffer, field.decode buffer = .ok value) := by
  intro all
  let clock : Field := .dateTime 0 6 "time" "Time"
  have encoded : clock.encode (.dateTime halfPast false) = .ok [25, 6, 10, 14, 30, 0] := rfl
  obtain ⟨bytes, sized, read⟩ := exists_decode_iff.mp
    ((all clock 6 (.dateTime halfPast false) rfl trivial fun _ => rfl).mp ⟨_, encoded⟩)
  obtain ⟨⟨whole, _⟩, _⟩ := (bytesOfDateTime_eq_ok_iff (.inr rfl)).mpr ⟨sized, read⟩
  cases whole

end Field

end HeatingBus
