import HeatingBus.Proofs.Message.Reports
import HeatingBus.Proofs.Message.Writes

/-!
# Writes that come back

A write that comes back to the message as an update, as if the device had told it. It fits into the
message and brings other bits to the written field alone, so that of the fields that were reported
before no other one is reported again or changes its value.
-/

namespace HeatingBus

/-! ## Bits of a window -/

/-- A field changes exactly if one of the bits that belong to it does. -/
theorem Field.isChangedBy_iff_exists_claims {field : Field} {window : Window} {buffer : Bytes} :
    field.IsChangedBy window buffer ↔
      ∃ place bit, field.Claims place bit ∧
        (window.byteAt? place).map (·.toNat.testBit bit) ≠
          buffer[place]?.map (·.toNat.testBit bit) := by
  cases kind : field.kind with
  | boolean own =>
    simp only [IsChangedBy, Claims, kind]
    constructor
    · intro differs
      exact ⟨_, _, ⟨rfl, rfl⟩, differs⟩
    · rintro ⟨place, bit, ⟨rfl, rfl⟩, differs⟩
      exact differs
  | integer _ _ | flag _ | date | dateTime | text =>
    simp only [IsChangedBy, Claims, kind]
    constructor
    · rintro ⟨place, starts, ends, differs⟩
      by_contra none
      refine differs (byte?_eq_of_testBit fun bit inside => ?_)
      by_contra other
      exact none ⟨place, bit, ⟨starts, ends, inside⟩, other⟩
    · rintro ⟨place, bit, ⟨starts, ends, _⟩, differs⟩
      exact ⟨place, starts, ends, fun same => differs (by rw [same])⟩

namespace Message

section
variable {message : Message} {name : String} {field : Field} {value : Value} {position : Nat}
  {bytes : Bytes}

/-- The bits that a write brings to others than its field are those that the message holds. -/
theorem testBit_of_encodeWrite (named : message.layout.field? name = some field)
    (encoded : message.encodeWrite name value = .ok (position, bytes)) {place bit : Nat}
    (inside : bit < 8) (foreign : ¬ field.Claims place bit) {byte : UInt8}
    (brought : (Window.mk bytes position).byteAt? place = some byte) :
    message.buffer[place]?.map (·.toNat.testBit bit) = some (byte.toNat.testBit bit) := by
  have declared := MessageLayout.mem_of_field? named
  obtain ⟨_, namedToo, rfl, sized⟩ := exists_field_of_encodeWrite encoded
  cases named.symm.trans namedToo
  have starts : field.position ≤ place := (Window.within_of_byteAt? brought).1
  have ends : place < field.position + field.length := sized ▸ (Window.within_of_byteAt? brought).2
  cases boolean : field.bit? with
  | none =>
    -- All bits of all bytes that are written belong to the field.
    exact absurd ((Field.claims_of_whole boolean).mpr ⟨starts, ends, inside⟩) foreign
  | some own =>
    have kind := Field.kind_of_bit? boolean
    obtain ⟨current, known⟩ := exists_current declared
    obtain ⟨on, _, rfl⟩ := encodeWrite_of_boolean named kind known encoded
    obtain rfl : place = field.position := by
      simp only [List.length_singleton] at sized
      omega
    have other : bit ≠ own.toNat := fun same =>
      foreign ((Field.claims_of_bit? boolean).mpr ⟨rfl, same⟩)
    have written : byte = field.applyBit current on := by
      rw [Window.byteAt?, if_pos (Nat.le_refl _), Nat.sub_self] at brought
      exact (Option.some.inj brought).symm
    have bound := Field.bit_of_check (message.layout.check_field declared) kind
    rw [known, Option.map_some, written, Field.testBit_applyBit kind bound on inside, if_neg other]

end

section
variable {layout : MessageLayout} {history : List Window} {name : String} {value : Value}
  {position : Nat} {bytes : Bytes}

theorem HasReported.declared {index : Nat} (reported : HasReported layout history index) :
    ∃ field, layout.fields[index]? = some field := by
  obtain ⟨earlier, window, _, outcome, parsed, changed⟩ := reported
  obtain ⟨_, rfl⟩ := parse_eq_ok_iff.mp parsed
  obtain ⟨field, declared, _⟩ := reports_iff.mp (mem_changedBy_iff.mp changed)
  rw [layout_after] at declared
  exact ⟨field, declared⟩

/-- After any history, a write is as long as its field and lies at its place. It can be fed back to
the message as an update, which changes no bit that does not belong to the field, and of the fields
that were reported before reports no other one and changes the value of no other one. -/
theorem parse_of_encodeWrite
    (encoded : (after layout history).encodeWrite name value = .ok (position, bytes)) :
    ∃ index field outcome,
      layout.fieldIndex? name = some index ∧ layout.fields[index]? = some field ∧
      position = field.position ∧ bytes.length = field.length ∧
      position + bytes.length ≤ layout.length ∧
      (after layout history).parse bytes position = .ok outcome ∧
      (∀ place bit, bit < 8 → ¬ field.Claims place bit →
        outcome.message.buffer[place]?.map (·.toNat.testBit bit) =
          (after layout history).buffer[place]?.map (·.toNat.testBit bit)) ∧
      ∀ other, other ≠ index → HasReported layout history other →
        other ∉ outcome.changed ∧
          outcome.message.values[other]? = (after layout history).values[other]? := by
  obtain ⟨field, named, own, sized⟩ := exists_field_of_encodeWrite encoded
  let window : Window := ⟨bytes, position⟩
  have kept {place bit : Nat} (inside : bit < 8) (foreign : ¬ field.Claims place bit) {byte : UInt8}
      (brought : window.byteAt? place = some byte) :
      (after layout history).buffer[place]?.map (·.toNat.testBit bit) =
        some (byte.toNat.testBit bit) :=
    testBit_of_encodeWrite named encoded inside foreign brought
  rw [layout_after] at named
  obtain ⟨index, indexed, declared⟩ := MessageLayout.exists_fieldIndex? named
  have room : position + bytes.length ≤ layout.length := by
    rw [own, sized]
    exact (layout.isSound_row.fields field (MessageLayout.mem_of_field? named)).ends
  have fits : window.FitsInto (after layout history).layout := fitsInto_layout_after.mpr room
  have parsed := (after layout history).parse_of_fits fits
  have isOutcome := isOutcome_of_parse parsed
  refine ⟨index, field, _, indexed, declared, own, sized, room, parsed, ?_, ?_⟩
  · intro place bit inside foreign
    rw [← absorb_of_fits fits, getElem?_buffer_absorb fits]
    cases brought : window.byteAt? place with
    | none => rw [Option.none_or]
    | some byte => rw [Option.some_or, Option.map_some, kept inside foreign brought]
  · intro other different reported
    obtain ⟨neighbour, declaredToo⟩ := reported.declared
    have unreported : other ∉ (after layout history).changedBy bytes position := by
      intro changed
      obtain ⟨_, found, covered, first | changes⟩ := (isOutcome.changed other).mp changed
      · exact first reported
      · cases declaredToo.symm.trans found
        obtain ⟨place, bit, claims, differs⟩ := Field.isChangedBy_iff_exists_claims.mp changes
        have sound := layout.isSound_row.fields neighbour (List.mem_of_getElem? declaredToo)
        obtain ⟨starts, ends, inside⟩ := sound.within_of_claims claims
        obtain ⟨byte, brought⟩ := Window.exists_byteAt?_of_covers covered starts ends
        -- A bit of the one field is none of the other, so the write has left it as it was.
        have foreign : ¬ field.Claims place bit := by
          intro own
          have bits := layout.isSound_row.bits place bit other index
          exact different (bits _ _ declaredToo declared claims own)
        rw [brought, Option.map_some] at differs
        exact differs (kept inside foreign brought).symm
    refine ⟨unreported, ?_⟩
    rw [isOutcome.values other neighbour declaredToo, if_neg unreported]

end

/-- A bit of the clock is set while its byte has another bit, and one that no field describes. The
first bit of the byte had been reported, and is not reported again. -/
theorem parse_of_encodeWrite_radio :
    let history : List Window := [⟨[25, 6, 14, 1, 30, 5, 3, 0x81], 0⟩]
    (after clockTime history).encodeWrite "radio" (.bool true) = .ok (7, [0x83]) ∧
      HasReported clockTime history 2 ∧
      ∃ outcome, (after clockTime history).parse [0x83] 7 = .ok outcome ∧ outcome.changed = [3] ∧
        outcome.message.values[2]? = (after clockTime history).values[2]? := by
  intro history
  have encoded : (after clockTime history).encodeWrite "radio" (.bool true) = .ok (7, [0x83]) := by
    decide +kernel
  have declared : clockTime.fields[2]? = some (Field.boolean 7 0 "dst" "Daylight saving") := rfl
  have reported : HasReported clockTime history 2 :=
    (hasReported_iff_hasCovered declared).mpr ⟨_, List.mem_singleton_self _, by decide, by decide⟩
  have changed : (after clockTime history).changedBy [0x83] 7 = [3] := by decide +kernel
  obtain ⟨index, field, outcome, indexed, _, _, _, _, parsed, _, others⟩ :=
    parse_of_encodeWrite encoded
  have third : some 3 = some index := indexed
  cases third
  obtain ⟨_, rfl⟩ := parse_eq_ok_iff.mp parsed
  exact ⟨encoded, reported, _, parsed, changed, (others 2 (by decide) reported).2⟩

end Message

end HeatingBus
