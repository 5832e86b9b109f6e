import HeatingBus.Proofs.Telegram.Frames

/-!
# Telegrams and their frames

Reading frames and writing telegrams undo each other. A frame is accepted if it is of a length that
the bus carries and sealed by its checksum, and such frames stand one to one for the telegrams that
can be built. Any other frame is refused, by its length first and by its checksum then.
-/

namespace HeatingBus

def IsSealed (frame : Bytes) : Prop :=
  frame.getLast? = some (checksum frame.dropLast)

namespace Telegram

variable {frame : Bytes} {telegram : Telegram}

/-! ## Frames of some telegram -/

theorem getLast?_toBytes (telegram : Telegram) :
    telegram.toBytes.getLast? = some telegram.checksum :=
  List.getLast?_concat

theorem isSealed_toBytes_iff :
    IsSealed telegram.toBytes ↔
      telegram.checksum = HeatingBus.checksum telegram.toBytes.dropLast := by
  rw [IsSealed, getLast?_toBytes, Option.some.injEq]

/-- A frame with room for a header, a payload and a checksum is the frame of some telegram, although
its checksum may be wrong. -/
theorem exists_toBytes_eq (long : 6 ≤ frame.length) :
    ∃ telegram : Telegram, telegram.toBytes = frame ∧ 0 < telegram.payload.length := by
  obtain ⟨front, last, rfl⟩ := List.eq_nil_or_concat frame |>.resolve_left (by
    rintro rfl
    simp at long)
  rw [List.concat_eq_append] at long ⊢
  match front, long with
  | source :: destination :: identification :: offset :: first :: rest, _ =>
    exact ⟨⟨source, destination, identification, offset, first :: rest, last⟩, rfl, by simp⟩

/-! ## Accepted and refused frames -/

theorem parse_of_short (short : frame.length < 6) :
    parse frame = .error (.frame (.tooShort frame.length)) :=
  if_pos short

theorem parse_of_long (long : 32 < frame.length) :
    parse frame = .error (.frame (.tooLong frame.length)) := by
  have enough : ¬ frame.length < minTelegramLength := by
    rw [minTelegramLength]
    omega
  have tooMuch : frame.length > maxTelegramLength := long
  rw [parse, if_neg enough, if_pos tooMuch]

/-- What a frame of a length that the bus carries is read as. -/
theorem exists_parse_eq_ite (least : 6 ≤ frame.length) (greatest : frame.length ≤ 32) :
    ∃ telegram : Telegram, telegram.toBytes = frame ∧
      parse frame = if telegram.checksum = HeatingBus.checksum frame.dropLast then .ok telegram
        else .error (.checksumMismatch (HeatingBus.checksum frame.dropLast) telegram.checksum) := by
  obtain ⟨telegram, rfl, payload⟩ := exists_toBytes_eq least
  rw [length_toBytes] at greatest
  have bound : maxPayloadLength = 27 := rfl
  exact ⟨telegram, rfl, parse_toBytes_eq_ite payload (by omega)⟩

theorem parse_of_not_isSealed (least : 6 ≤ frame.length) (greatest : frame.length ≤ 32)
    (unsealed : ¬ IsSealed frame) :
    parse frame =
      .error (.checksumMismatch (HeatingBus.checksum frame.dropLast) (frame.getLastD 0)) := by
  obtain ⟨telegram, rfl, read⟩ := exists_parse_eq_ite least greatest
  have last : telegram.toBytes.getLastD 0 = telegram.checksum := by
    simp [List.getLastD_eq_getLast?, getLast?_toBytes]
  rw [read, last, if_neg (mt isSealed_toBytes_iff.mpr unsealed)]

/-- A frame is accepted as a telegram exactly if it is the frame of that telegram and the bus can
carry the telegram. -/
theorem parse_eq_ok_iff : parse frame = .ok telegram ↔ telegram.IsSound ∧ telegram.toBytes = frame := by
  constructor
  · intro accepted
    by_cases short : frame.length < 6
    · rw [parse_of_short short] at accepted
      cases accepted
    by_cases long : 32 < frame.length
    · rw [parse_of_long long] at accepted
      cases accepted
    obtain ⟨found, rfl, read⟩ := exists_parse_eq_ite (Nat.not_lt.mp short) (Nat.not_lt.mp long)
    rw [read] at accepted
    split at accepted
    · rename_i sum
      cases accepted
      rw [dropLast_toBytes] at sum
      rw [length_toBytes] at short long
      have bound : maxPayloadLength = 27 := rfl
      exact ⟨⟨by omega, by omega, sum⟩, rfl⟩
    · cases accepted
  · rintro ⟨sound, rfl⟩
    exact parse_toBytes sound

theorem exists_parse_eq_ok_iff :
    (∃ telegram, parse frame = .ok telegram) ↔
      (6 ≤ frame.length ∧ frame.length ≤ 32) ∧ IsSealed frame := by
  constructor
  · rintro ⟨telegram, accepted⟩
    obtain ⟨sound, rfl⟩ := parse_eq_ok_iff.mp accepted
    obtain ⟨least, greatest, sum⟩ := sound
    have bound : maxPayloadLength = 27 := rfl
    rw [isSealed_toBytes_iff, dropLast_toBytes, length_toBytes]
    exact ⟨⟨by omega, by omega⟩, sum⟩
  · rintro ⟨⟨least, greatest⟩, intact⟩
    obtain ⟨telegram, rfl, read⟩ := exists_parse_eq_ite least greatest
    rw [isSealed_toBytes_iff] at intact
    exact ⟨telegram, by rw [read, if_pos intact]⟩

/-! ## Telegrams that can be built -/

/-- Whether a telegram is made by one of the three ways to make one. -/
inductive IsBuilt : Telegram → Prop where
  | ofPayload {source destination identification offset : UInt8} {payload : Bytes}
      {telegram : Telegram}
      (built : ofPayload source destination identification offset payload = .ok telegram) :
      IsBuilt telegram
  | write {client destination identification offset : UInt8} {bytes : Bytes} {telegram : Telegram}
      (built : write client destination identification offset bytes = .ok telegram) :
      IsBuilt telegram
  | readRequest (client destination identification : UInt8) :
      IsBuilt (readRequest client destination identification)

theorem isSound_sealed {source destination identification offset : UInt8} {payload : Bytes}
    (least : 0 < payload.length) (greatest : payload.length ≤ maxPayloadLength) :
    (sealed source destination identification offset payload).IsSound := by
  refine ⟨least, greatest, ?_⟩
  rw [sealed]

theorem isSound_of_ofPayload {source destination identification offset : UInt8} {payload : Bytes}
    (built : ofPayload source destination identification offset payload = .ok telegram) :
    telegram.IsSound := by
  obtain ⟨⟨least, greatest⟩, rfl⟩ := ofPayload_eq_ok_iff.mp built
  exact isSound_sealed least greatest

/-- A telegram that the bus can carry is built from its parts. -/
theorem ofPayload_of_isSound (sound : telegram.IsSound) :
    ofPayload telegram.source telegram.destinationByte telegram.identification telegram.offset
      telegram.payload = .ok telegram := by
  obtain ⟨least, greatest, sum⟩ := sound
  rw [ofPayload_eq_ok_iff, sealed, ← sum]
  exact ⟨⟨least, greatest⟩, rfl⟩

/-- The bus can carry exactly the telegrams that can be built. -/
theorem isBuilt_iff_isSound : telegram.IsBuilt ↔ telegram.IsSound := by
  constructor
  · intro built
    cases built with
    | ofPayload built => exact isSound_of_ofPayload built
    | write built => exact isSound_of_ofPayload built
    | readRequest client destination identification =>
      exact isSound_sealed Nat.zero_lt_one (by decide)
  · intro sound
    exact .ofPayload (ofPayload_of_isSound sound)

/-! ## Main statement -/

/-- The frames that are accepted are those of 6 to 32 bytes that are sealed by their checksum. An
accepted frame and its telegram give each other back, and the telegram is the one that its parts
build; a telegram that can be built gives itself back through its frame. A refused frame is refused
for its length, or else for its checksum. -/
theorem frames_stand_for_telegrams :
    (∀ frame, (∃ telegram, parse frame = .ok telegram) ↔
      (6 ≤ frame.length ∧ frame.length ≤ 32) ∧
        frame.getLast? = some (HeatingBus.checksum frame.dropLast)) ∧
    (∀ frame telegram, parse frame = .ok telegram →
      telegram.toBytes = frame ∧
        ofPayload telegram.source telegram.destinationByte telegram.identification telegram.offset
          telegram.payload = .ok telegram) ∧
    (∀ telegram : Telegram, telegram.IsBuilt →
      parse telegram.toBytes = .ok telegram ∧ telegram.length = telegram.toBytes.length) ∧
    (∀ source destination identification offset payload,
      (∃ telegram, ofPayload source destination identification offset payload = .ok telegram) ↔
        1 ≤ payload.length ∧ payload.length ≤ 27) ∧
    (∀ frame error, parse frame = .error error →
      error = if frame.length < 6 then .frame (.tooShort frame.length)
        else if 32 < frame.length then .frame (.tooLong frame.length)
        else .checksumMismatch (HeatingBus.checksum frame.dropLast) (frame.getLastD 0)) := by
  refine ⟨fun _ => exists_parse_eq_ok_iff, ?_, ?_, ?_, ?_⟩
  · intro frame telegram accepted
    obtain ⟨sound, written⟩ := parse_eq_ok_iff.mp accepted
    exact ⟨written, ofPayload_of_isSound sound⟩
  · intro telegram built
    refine ⟨parse_toBytes (isBuilt_iff_isSound.mp built), ?_⟩
    rw [length_toBytes, Telegram.length, headerLength]
    omega
  · intro source destination identification offset payload
    simp only [ofPayload_eq_ok_iff, exists_and_left, exists_eq', and_true]
    rfl
  · intro frame error refused
    split
    · rename_i short
      rw [parse_of_short short] at refused
      exact (Except.error.inj refused).symm
    split
    · rename_i long
      rw [parse_of_long long] at refused
      exact (Except.error.inj refused).symm
    · rename_i least greatest
      have within := And.intro (Nat.not_lt.mp least) (Nat.not_lt.mp greatest)
      by_cases intact : IsSealed frame
      · obtain ⟨telegram, accepted⟩ := exists_parse_eq_ok_iff.mpr ⟨within, intact⟩
        rw [accepted] at refused
        cases refused
      · rw [parse_of_not_isSealed within.1 within.2 intact] at refused
        exact (Except.error.inj refused).symm

end Telegram

end HeatingBus
