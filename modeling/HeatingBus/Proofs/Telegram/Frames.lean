import HeatingBus.Telegram

/-!
# Frames

The frame of a telegram says all of the telegram: a telegram that the bus can carry is read back
from its frame as it was written.
-/

namespace HeatingBus

namespace Telegram

/-- Whether the bus can carry a telegram: its payload is of a length that fits into a frame, and its
checksum is the one that it should have. -/
structure IsSound (telegram : Telegram) : Prop where
  payload_pos : 0 < telegram.payload.length
  payload_le : telegram.payload.length ≤ maxPayloadLength
  checksum_eq : telegram.checksum = HeatingBus.checksum (body telegram.source
    telegram.destinationByte telegram.identification telegram.offset telegram.payload)

section
variable {source destination identification offset : UInt8} {payload : Bytes}
  {telegram : Telegram}

theorem length_toBytes (telegram : Telegram) :
    telegram.toBytes.length = telegram.payload.length + 5 := by
  simp [toBytes, body]

theorem dropLast_toBytes (telegram : Telegram) :
    telegram.toBytes.dropLast = body telegram.source telegram.destinationByte
      telegram.identification telegram.offset telegram.payload :=
  List.dropLast_concat

theorem ofPayload_eq_ok_iff :
    ofPayload source destination identification offset payload = .ok telegram ↔
      (0 < payload.length ∧ payload.length ≤ maxPayloadLength) ∧
        sealed source destination identification offset payload = telegram := by
  rw [ofPayload]
  split
  · rename_i outside
    refine iff_of_false (by simp) fun within => ?_
    simp only [List.isEmpty_iff_length_eq_zero] at outside
    omega
  · rename_i within
    simp only [List.isEmpty_iff_length_eq_zero, not_or] at within
    rw [Except.ok.injEq, iff_and_self]
    intro _
    omega

/-- The frame of a telegram holds the telegram if its checksum is right, and nothing otherwise. -/
theorem parse_toBytes_eq_ite (least : 0 < telegram.payload.length)
    (greatest : telegram.payload.length ≤ maxPayloadLength) :
    parse telegram.toBytes =
      if telegram.checksum = HeatingBus.checksum telegram.toBytes.dropLast then .ok telegram
      else .error (.checksumMismatch (HeatingBus.checksum telegram.toBytes.dropLast)
        telegram.checksum) := by
  have length := length_toBytes telegram
  -- The checksum is the last byte of the frame, and it is of all the bytes before it.
  have body := dropLast_toBytes telegram
  have last : telegram.toBytes.getLastD 0 = telegram.checksum := by
    simp [toBytes]
  have long : ¬ telegram.toBytes.length < minTelegramLength := by
    rw [length, minTelegramLength]
    omega
  have short : ¬ telegram.toBytes.length > maxTelegramLength := by
    rw [length, maxTelegramLength]
    have bound : maxPayloadLength = 27 := rfl
    omega
  rw [parse, if_neg long, if_neg short, last]
  by_cases right : telegram.checksum = HeatingBus.checksum telegram.toBytes.dropLast
  · rw [if_pos right, if_neg (not_not_intro right.symm), body]
    rfl
  · rw [if_neg right, if_pos (Ne.symm right)]

/-- A telegram is read back from its frame. -/
theorem parse_toBytes (sound : telegram.IsSound) : parse telegram.toBytes = .ok telegram := by
  obtain ⟨least, greatest, sum⟩ := sound
  rw [← dropLast_toBytes] at sum
  rw [parse_toBytes_eq_ite least greatest, if_pos sum]

end

end Telegram

end HeatingBus
