import HeatingBus.OnlineBitmap
import Mathlib.Algebra.Group.Nat.Defs

/-!
# Members of the bitmap

The two readings of a bitmap agree: an address is online exactly if it is in the list of present
addresses. The changes between two bitmaps are the differences of their members.
-/

namespace HeatingBus

namespace OnlineBitmap

/-! ## Bits of a byte -/

theorem toNat_mask {bit : Nat} (bound : bit < 8) : (mask bit).toNat = 2 ^ bit := by
  have power : 2 ^ bit < 2 ^ 8 := Nat.pow_lt_pow_right (by decide) bound
  have small : (UInt8.ofNat bit).toNat = bit := by
    rw [UInt8.toNat_ofNat']
    omega
  rw [mask, UInt8.toNat_shiftLeft, small, Nat.mod_eq_of_lt bound, UInt8.toNat_one,
    Nat.one_shiftLeft, Nat.mod_eq_of_lt power]

theorem testBit_and_mask {byte : UInt8} {bit other : Nat} (bound : bit < 8) :
    (byte &&& mask bit).toNat.testBit other =
      (byte.toNat.testBit other && decide (bit = other)) := by
  rw [UInt8.toNat_and, toNat_mask bound, Nat.testBit_and, Nat.testBit_two_pow]

/-- The mask of a bit picks that bit. -/
theorem and_mask {byte : UInt8} {bit : Nat} (bound : bit < 8) :
    (byte &&& mask bit != 0) = byte.toNat.testBit bit := by
  cases set : byte.toNat.testBit bit with
  | true =>
    rw [bne_iff_ne]
    intro none
    have picked : (byte &&& mask bit).toNat.testBit bit = _ := testBit_and_mask bound
    rw [none, set] at picked
    simp at picked
  | false =>
    have none : byte &&& mask bit = 0 := by
      apply UInt8.toNat_inj.mp
      apply Nat.eq_of_testBit_eq
      intro other
      rw [testBit_and_mask bound]
      by_cases same : bit = other
      · subst same
        simp [set]
      · simp [same]
    rw [none]
    rfl

theorem mem_setBits {byte : UInt8} {bit : Nat} :
    bit ∈ setBits byte ↔ bit < 8 ∧ byte.toNat.testBit bit = true := by
  rw [setBits, List.mem_filter, List.mem_range]
  constructor
  · rintro ⟨bound, set⟩
    exact ⟨bound, by rwa [and_mask bound] at set⟩
  · rintro ⟨bound, set⟩
    exact ⟨bound, by rwa [and_mask bound]⟩

/-! ## Bits of a bitmap -/

def HasBit (address : BusAddress) : Prop :=
  8 ≤ address.toNat ∧ address.toNat < 72

section
variable {bitmap newer : OnlineBitmap} {address : BusAddress} {place bit : Nat}

theorem exists_place (mapped : HasBit address) :
    ∃ place, place < bitmapLength ∧ ∃ bit < 8, address.toNat = 8 * (place + 1) + bit := by
  obtain ⟨least, greatest⟩ := mapped
  refine ⟨(address.toNat - 8) / 8, ?_, (address.toNat - 8) % 8, ?_, ?_⟩
  · show _ < 8
    omega
  · omega
  · omega

theorem isOnline_eq_testBit (placed : place < bitmapLength) (bound : bit < 8)
    (own : address.toNat = 8 * (place + 1) + bit) :
    bitmap.isOnline address = bitmap.bytes[place].toNat.testBit bit := by
  have least : firstBitmapAddress ≤ address := by
    rw [UInt8.le_iff_toNat_le, own]
    show 8 ≤ _
    omega
  have byte : (address.toNat - firstBitmapAddress.toNat) / 8 = place := by
    show (address.toNat - 8) / 8 = place
    omega
  have column : (address.toNat - firstBitmapAddress.toNat) % 8 = bit := by
    show (address.toNat - 8) % 8 = bit
    omega
  rw [isOnline, byte, column, Vector.getElem?_eq_getElem placed]
  simp only [least, decide_true, Bool.true_and]
  exact and_mask bound

theorem hasBit_of_isOnline (online : bitmap.isOnline address = true) : HasBit address := by
  simp only [isOnline, Bool.and_eq_true, decide_eq_true_eq, UInt8.le_iff_toNat_le] at online
  obtain ⟨least, set⟩ := online
  have start : firstBitmapAddress.toNat = 8 := rfl
  rw [start] at least set
  refine ⟨least, ?_⟩
  rcases Nat.lt_or_ge address.toNat 72 with within | beyond
  · exact within
  · have outside : bitmapLength ≤ (address.toNat - 8) / 8 := by
      show 8 ≤ _
      omega
    rw [Vector.getElem?_eq_none outside] at set
    cases set

theorem toNat_addressOf (placed : place < bitmapLength) (bound : bit < 8) :
    (addressOf place bit).toNat = 8 * (place + 1) + bit := by
  have small : place < 8 := placed
  rw [addressOf, UInt8.toNat_ofNat']
  omega

/-- The list of present addresses holds exactly the addresses that are online. -/
theorem mem_addresses_iff : address ∈ bitmap.addresses ↔ bitmap.isOnline address = true := by
  rw [addresses, addressesOf, List.mem_flatMap]
  constructor
  · rintro ⟨⟨byte, place⟩, entry, member⟩
    obtain ⟨bit, set, rfl⟩ := List.mem_map.mp member
    obtain ⟨bound, set⟩ := mem_setBits.mp set
    have found : bitmap.bytes[place]? = some byte := by
      rw [← Vector.getElem?_toList]
      exact List.mem_zipIdx_iff_getElem?.mp entry
    obtain ⟨placed, rfl⟩ := Vector.getElem?_eq_some_iff.mp found
    rw [isOnline_eq_testBit placed bound (toNat_addressOf placed bound)]
    exact set
  · intro online
    obtain ⟨place, placed, bit, bound, own⟩ := exists_place (hasBit_of_isOnline online)
    rw [isOnline_eq_testBit placed bound own] at online
    refine ⟨(bitmap.bytes[place], place), ?_, ?_⟩
    · rw [List.mem_zipIdx_iff_getElem?]
      simp [placed]
    · refine List.mem_map.mpr ⟨bit, mem_setBits.mpr ⟨bound, online⟩, ?_⟩
      exact UInt8.toNat_inj.mp (by rw [toNat_addressOf placed bound, own])

/-! ## Changes -/

/-- What is computed of two bitmaps byte by byte is computed bit by bit. -/
theorem mem_addressesOf_zipWith (merge : UInt8 → UInt8 → UInt8) (mergeBit : Bool → Bool → Bool)
    (bitwise : ∀ one other bit, (merge one other).toNat.testBit bit =
      mergeBit (one.toNat.testBit bit) (other.toNat.testBit bit))
    (clear : mergeBit false false = false) :
    address ∈ addressesOf (bitmap.bytes.zipWith merge newer.bytes) ↔
      mergeBit (bitmap.isOnline address) (newer.isOnline address) = true := by
  show address ∈ addresses ⟨bitmap.bytes.zipWith merge newer.bytes⟩ ↔ _
  rw [mem_addresses_iff]
  by_cases mapped : HasBit address
  · obtain ⟨place, placed, bit, bound, own⟩ := exists_place mapped
    simp only [isOnline_eq_testBit placed bound own, Vector.getElem_zipWith, bitwise]
  · have offline : ∀ other : OnlineBitmap, other.isOnline address = false := fun other =>
      Bool.eq_false_iff.mpr fun online => mapped (hasBit_of_isOnline online)
    rw [offline, offline, offline, clear]

theorem mem_cameOnline_iff :
    address ∈ (bitmap.diff newer).cameOnline ↔
      bitmap.isOnline address = false ∧ newer.isOnline address = true := by
  have bitwise : ∀ (old new : UInt8) (bit : Nat), ((old ^^^ new) &&& new).toNat.testBit bit =
      (!old.toNat.testBit bit && new.toNat.testBit bit) := by
    intro old new bit
    rw [UInt8.toNat_and, UInt8.toNat_xor, Nat.testBit_and, Nat.testBit_xor]
    cases old.toNat.testBit bit <;> cases new.toNat.testBit bit <;> rfl
  rw [diff, mem_addressesOf_zipWith _ (fun old new => !old && new) bitwise rfl]
  simp

theorem mem_wentOffline_iff :
    address ∈ (bitmap.diff newer).wentOffline ↔
      bitmap.isOnline address = true ∧ newer.isOnline address = false := by
  have bitwise : ∀ (old new : UInt8) (bit : Nat), ((old ^^^ new) &&& old).toNat.testBit bit =
      (old.toNat.testBit bit && !new.toNat.testBit bit) := by
    intro old new bit
    rw [UInt8.toNat_and, UInt8.toNat_xor, Nat.testBit_and, Nat.testBit_xor]
    cases old.toNat.testBit bit <;> cases new.toNat.testBit bit <;> rfl
  rw [diff, mem_addressesOf_zipWith _ (fun old new => old && !new) bitwise rfl]
  simp

end

end OnlineBitmap

end HeatingBus
