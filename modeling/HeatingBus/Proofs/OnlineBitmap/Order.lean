import HeatingBus.Proofs.OnlineBitmap.Membership
import Mathlib.Data.List.Perm.Basic

/-!
# The order of addresses

Addresses are listed in ascending order, bytes first and bits then, so that a list of them is known
by its members.
-/

namespace HeatingBus

namespace OnlineBitmap

theorem pairwise_setBits (byte : UInt8) : (setBits byte).Pairwise (· < ·) :=
  List.pairwise_lt_range.filter _

theorem pairwise_addressesOf (bytes : Vector UInt8 bitmapLength) :
    (addressesOf bytes).Pairwise (· < ·) := by
  have place_lt : ∀ entry ∈ bytes.toList.zipIdx, entry.2 < bitmapLength := by
    intro entry member
    have bound := (List.mem_zipIdx' member).1
    rwa [Vector.length_toList] at bound
  have ascending : bytes.toList.zipIdx.Pairwise fun one other => one.2 < other.2 := by
    rw [← List.pairwise_map, List.zipIdx_map_snd]
    exact List.pairwise_lt_range'
  -- Two addresses of one byte differ in their bits, and others in the places of their bytes.
  rw [addressesOf, List.pairwise_flatMap]
  constructor
  · intro entry member
    rw [List.pairwise_map]
    refine (pairwise_setBits entry.1).imp_of_mem fun one other lower => ?_
    rw [UInt8.lt_iff_toNat_lt, toNat_addressOf (place_lt entry member) (mem_setBits.mp one).1,
      toNat_addressOf (place_lt entry member) (mem_setBits.mp other).1]
    omega
  · refine ascending.imp_of_mem fun one other lower => ?_
    intro address inOne address' inOther
    obtain ⟨bit, set, rfl⟩ := List.mem_map.mp inOne
    obtain ⟨bit', set', rfl⟩ := List.mem_map.mp inOther
    have bound := (mem_setBits.mp set).1
    rw [UInt8.lt_iff_toNat_lt, toNat_addressOf (place_lt _ one) bound,
      toNat_addressOf (place_lt _ other) (mem_setBits.mp set').1]
    omega

/-- Two ascending lists with the same addresses are the same list. -/
theorem eq_of_ascending {addresses others : List BusAddress}
    (ascending : addresses.Pairwise (· < ·)) (othersAscending : others.Pairwise (· < ·))
    (same : ∀ address, address ∈ addresses ↔ address ∈ others) : addresses = others := by
  have distinct : ∀ {list : List BusAddress}, list.Pairwise (· < ·) → list.Nodup := fun ascends =>
    ascends.imp fun less => UInt8.ne_of_lt less
  refine List.Perm.eq_of_pairwise ?_ ascending othersAscending ?_
  · intro one other _ _ less greater
    exact absurd greater (UInt8.lt_asymm less)
  · exact (List.perm_ext_iff_of_nodup (distinct ascending) (distinct othersAscending)).mpr same

end OnlineBitmap

end HeatingBus
