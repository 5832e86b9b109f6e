import HeatingBus.Proofs.Field.Bits
import HeatingBus.Proofs.OnlineBitmap.Order

/-!
# Bitmaps as sets of addresses

A bitmap is the set of the addresses that are online. Two bitmaps with the same members are the
same, the changes between two of them are the differences of their sets, and an update replaces the
bytes of its window and leaves the others alone, so that no address of another byte comes or goes.
The bytes of an update are put into the bitmap one by one, which comes to an end unless the place of
one of them is no machine word.
-/

namespace HeatingBus

namespace OnlineBitmap

section
variable {bitmap newer : OnlineBitmap} {address : BusAddress} {update : Bytes}
  {offset place index : Nat}

/-! ## Members -/

theorem eq_of_bytes (same : ∀ place (placed : place < bitmapLength),
    bitmap.bytes[place] = newer.bytes[place]) : bitmap = newer :=
  congrArg OnlineBitmap.mk (Vector.ext same)

/-- Bitmaps are equal if the same addresses are online. -/
theorem eq_of_isOnline (same : ∀ address, bitmap.isOnline address = newer.isOnline address) :
    bitmap = newer := by
  refine eq_of_bytes fun place placed => eq_of_testBit fun bit bound => ?_
  have own := toNat_addressOf placed bound
  have online := same (addressOf place bit)
  rwa [isOnline_eq_testBit placed bound own, isOnline_eq_testBit placed bound own] at online

theorem bounds_of_mem_addresses (listed : address ∈ bitmap.addresses) :
    8 ≤ address ∧ address ≤ 71 := by
  obtain ⟨least, greatest⟩ := hasBit_of_isOnline (mem_addresses_iff.mp listed)
  exact ⟨UInt8.le_iff_toNat_le.mpr least,
    UInt8.le_iff_toNat_le.mpr (Nat.le_of_lt_succ greatest)⟩

/-! ## Changes -/

theorem cameOnline_eq_filter :
    (bitmap.diff newer).cameOnline =
      newer.addresses.filter fun address => address ∉ bitmap.addresses := by
  refine eq_of_ascending (pairwise_addressesOf _) ((pairwise_addressesOf _).filter _) ?_
  intro address
  rw [mem_cameOnline_iff, List.mem_filter, decide_eq_true_eq, mem_addresses_iff, mem_addresses_iff,
    Bool.not_eq_true, and_comm]

/-- Looking back from the newer bitmap, what came online has gone offline and the reverse. -/
theorem diff_symm :
    newer.diff bitmap = ⟨(bitmap.diff newer).wentOffline, (bitmap.diff newer).cameOnline⟩ := by
  have came : (newer.diff bitmap).cameOnline = (bitmap.diff newer).wentOffline :=
    eq_of_ascending (pairwise_addressesOf _) (pairwise_addressesOf _) fun address => by
      rw [mem_cameOnline_iff, mem_wentOffline_iff, and_comm]
  have went : (newer.diff bitmap).wentOffline = (bitmap.diff newer).cameOnline :=
    eq_of_ascending (pairwise_addressesOf _) (pairwise_addressesOf _) fun address => by
      rw [mem_cameOnline_iff, mem_wentOffline_iff, and_comm]
  rw [← came, ← went]

theorem wentOffline_eq_filter :
    (bitmap.diff newer).wentOffline =
      bitmap.addresses.filter fun address => address ∉ newer.addresses := by
  rw [← cameOnline_eq_filter, diff_symm]

theorem isEmpty_diff_iff : (bitmap.diff newer).isEmpty = true ↔ bitmap = newer := by
  rw [BitmapChange.isEmpty, Bool.and_eq_true, List.isEmpty_iff, List.isEmpty_iff,
    List.eq_nil_iff_forall_not_mem, List.eq_nil_iff_forall_not_mem]
  simp only [mem_cameOnline_iff, mem_wentOffline_iff, not_and, Bool.not_eq_true, Bool.not_eq_false]
  constructor
  · rintro ⟨noneCame, noneWent⟩
    refine eq_of_isOnline fun address => ?_
    cases old : bitmap.isOnline address with
    | true => exact (noneWent address old).symm
    | false => exact (noneCame address old).symm
  · rintro rfl
    exact ⟨fun _ offline => offline, fun _ online => online⟩

/-! ## Updates -/

theorem getElem_withUpdate (placed : place < bitmapLength) :
    (bitmap.withUpdate update offset).bytes[place] =
      if offset ≤ place then (update[place - offset]?).getD bitmap.bytes[place]
      else bitmap.bytes[place] :=
  Vector.getElem_ofFn _

theorem getElem?_withUpdate_of_within (within : index < update.length)
    (placed : offset + index < bitmapLength) :
    (bitmap.withUpdate update offset).bytes[offset + index]? = update[index]? := by
  rw [Vector.getElem?_eq_getElem placed, getElem_withUpdate placed,
    if_pos (Nat.le_add_right offset index), Nat.add_sub_cancel_left,
    List.getElem?_eq_getElem within, Option.getD_some]

theorem getElem?_withUpdate_of_outside
    (outside : ∀ index < update.length, place ≠ offset + index) :
    (bitmap.withUpdate update offset).bytes[place]? = bitmap.bytes[place]? := by
  by_cases placed : place < bitmapLength
  · rw [Vector.getElem?_eq_getElem placed, Vector.getElem?_eq_getElem placed,
      getElem_withUpdate placed]
    split
    · rename_i start
      have beyond : update.length ≤ place - offset := by
        by_contra within
        exact outside (place - offset) (Nat.lt_of_not_le within) (by omega)
      rw [List.getElem?_eq_none beyond]
      rfl
    · rfl
  · rw [Vector.getElem?_eq_none (Nat.not_lt.mp placed),
      Vector.getElem?_eq_none (Nat.not_lt.mp placed)]

theorem withUpdate_nil : bitmap.withUpdate [] offset = bitmap :=
  eq_of_bytes fun place placed => by
    rw [getElem_withUpdate placed]
    exact ite_self bitmap.bytes[place]

/-- The first byte of an update may be put into the bitmap by itself. -/
theorem withUpdate_cons {byte : UInt8} :
    (bitmap.set offset byte).withUpdate update (offset + 1) =
      bitmap.withUpdate (byte :: update) offset := by
  refine eq_of_bytes fun place placed => ?_
  have own : (bitmap.set offset byte).bytes[place] =
      if offset = place then byte else bitmap.bytes[place] := Vector.getElem_setIfInBounds _
  rw [getElem_withUpdate placed, getElem_withUpdate placed, own]
  rcases Nat.lt_trichotomy offset place with before | same | behind
  · have next : place - offset = place - (offset + 1) + 1 := by omega
    rw [if_pos (Nat.succ_le_of_lt before), if_pos (Nat.le_of_lt before),
      if_neg (Nat.ne_of_lt before), next, List.getElem?_cons_succ]
  · rw [if_neg (by omega), if_pos same, if_pos (Nat.le_of_eq same), same, Nat.sub_self,
      List.getElem?_cons_zero, Option.getD_some]
  · rw [if_neg (by omega), if_neg (by omega), if_neg (by omega)]

/-- What is put into a bitmap byte by byte is an update, if the place of every byte is a word. -/
theorem putFrom?_eq_some
    (words : ∀ place < update.length, offset + (index + place) < wordLimit) :
    bitmap.putFrom? offset index update = some (bitmap.withUpdate update (offset + index)) := by
  induction update generalizing bitmap index with
  | nil => rw [putFrom?, withUpdate_nil]
  | cons byte rest inductionHypothesis =>
    have first : offset + index < wordLimit := words 0 (Nat.zero_lt_succ _)
    have later : ∀ place < rest.length, offset + (index + 1 + place) < wordLimit :=
      fun place bound => by
        have word := words (place + 1) (Nat.succ_lt_succ bound)
        omega
    rw [putFrom?, wordSum?_eq_some first, Option.bind_eq_bind, Option.bind_some,
      inductionHypothesis later, ← Nat.add_assoc, withUpdate_cons]

theorem putFrom?_eq_none_iff :
    bitmap.putFrom? offset index update = none ↔
      ∃ place < update.length, wordLimit ≤ offset + (index + place) := by
  induction update generalizing bitmap index with
  | nil => exact iff_of_false nofun fun ⟨_, bound, _⟩ => nomatch bound
  | cons byte rest inductionHypothesis =>
    rw [putFrom?, List.length_cons, Nat.exists_lt_succ_left]
    cases sum : wordSum? offset index with
    | none => exact iff_of_true rfl (.inl (wordSum?_eq_none_iff.mp sum))
    | some place =>
      have first : ¬ wordLimit ≤ offset + (index + 0) := fun large => by
        have stops : wordSum? offset index = none := wordSum?_eq_none_iff.mpr large
        cases stops.symm.trans sum
      rw [Option.bind_eq_bind, Option.bind_some, inductionHypothesis, or_iff_right first]
      simp only [Nat.add_assoc, Nat.add_comm 1]

theorem withUpdate?_eq_none_iff :
    bitmap.withUpdate? update offset = none ↔
      ∃ place < update.length, wordLimit ≤ offset + place := by
  simp only [withUpdate?, putFrom?_eq_none_iff, Nat.zero_add]

theorem eq_of_withUpdate?_eq_some (updated : bitmap.withUpdate? update offset = some newer) :
    newer = bitmap.withUpdate update offset := by
  have words : ∀ place < update.length, offset + (0 + place) < wordLimit := by
    intro place bound
    refine Nat.lt_of_not_le fun large => ?_
    rw [Nat.zero_add] at large
    rw [withUpdate?_eq_none_iff.mpr ⟨place, bound, large⟩] at updated
    cases updated
  rw [withUpdate?, putFrom?_eq_some words] at updated
  exact (Option.some.inj updated).symm

/-- Whether an address is online depends on its own byte only. -/
theorem isOnline_congr (same : ∀ place, address.toNat / 8 = place + 1 →
    newer.bytes[place]? = bitmap.bytes[place]?) :
    newer.isOnline address = bitmap.isOnline address := by
  by_cases mapped : HasBit address
  · obtain ⟨place, placed, bit, bound, own⟩ := exists_place mapped
    have byte := same place (by omega)
    rw [Vector.getElem?_eq_getElem placed, Vector.getElem?_eq_getElem placed,
      Option.some.injEq] at byte
    rw [isOnline_eq_testBit placed bound own, isOnline_eq_testBit placed bound own, byte]
  -- An address without a bit is offline in every bitmap.
  · have offline (other : OnlineBitmap) : other.isOnline address = false :=
      Bool.eq_false_iff.mpr fun online => mapped (hasBit_of_isOnline online)
    rw [offline, offline]

end

/-- A bitmap is the set of its addresses, changes are differences of sets, and updates replace
bytes, unless the place of one of the bytes is no word. The byte of an address is the one whose
number is one less than an eighth of the address. -/
theorem addresses_changes_updates (bitmap newer : OnlineBitmap) :
    ((∀ address, bitmap.isOnline address = true ↔ address ∈ bitmap.addresses) ∧
      bitmap.addresses.Pairwise (· < ·) ∧
      ∀ address ∈ bitmap.addresses, 8 ≤ address ∧ address ≤ 71) ∧
    ((bitmap.diff newer).cameOnline =
        newer.addresses.filter (fun address => address ∉ bitmap.addresses) ∧
      (bitmap.diff newer).wentOffline =
        bitmap.addresses.filter (fun address => address ∉ newer.addresses) ∧
      (bitmap.diff newer).cameOnline.Pairwise (· < ·) ∧
      (bitmap.diff newer).wentOffline.Pairwise (· < ·) ∧
      newer.diff bitmap = ⟨(bitmap.diff newer).wentOffline, (bitmap.diff newer).cameOnline⟩ ∧
      ((bitmap.diff newer).isEmpty = true ↔ bitmap = newer)) ∧
    ∀ (update : Bytes) (offset : Nat),
      (bitmap.withUpdate? update offset = none ↔
        ∃ index < update.length, wordLimit ≤ offset + index) ∧
      ∀ after, bitmap.withUpdate? update offset = some after →
        after = bitmap.withUpdate update offset ∧
        (∀ index < update.length, offset + index < bitmapLength →
          after.bytes[offset + index]? = update[index]?) ∧
        (∀ place, (∀ index < update.length, place ≠ offset + index) →
          after.bytes[place]? = bitmap.bytes[place]?) ∧
        ∀ address : BusAddress,
          (∀ index < update.length, address.toNat / 8 ≠ (offset + index) + 1) →
          after.isOnline address = bitmap.isOnline address := by
  refine ⟨⟨fun address => mem_addresses_iff.symm, pairwise_addressesOf _,
    fun address => bounds_of_mem_addresses⟩, ⟨cameOnline_eq_filter, wentOffline_eq_filter,
    pairwise_addressesOf _, pairwise_addressesOf _, diff_symm, isEmpty_diff_iff⟩,
    fun update offset => ⟨withUpdate?_eq_none_iff, fun after updated => ?_⟩⟩
  obtain rfl := eq_of_withUpdate?_eq_some updated
  refine ⟨rfl, fun index => getElem?_withUpdate_of_within,
    fun place => getElem?_withUpdate_of_outside, fun address outside => ?_⟩
  refine isOnline_congr fun place own => getElem?_withUpdate_of_outside fun index within same => ?_
  exact outside index within (by omega)

/-- The last byte of the bitmap is replaced, and what follows it in the update is ignored. -/
theorem updates_of_last_byte :
    ∃ after, empty.withUpdate? [0x01, 0xFF] 7 = some after ∧ after.bytes[7]? = some 0x01 ∧
      after.bytes[0]? = some 0 ∧ after.isOnline 8 = false ∧ (64 : BusAddress) ∈ after.addresses := by
  obtain ⟨_, _, updates⟩ := addresses_changes_updates empty empty
  obtain ⟨stops, follows⟩ := updates [0x01, 0xFF] 7
  have updated : empty.withUpdate? [0x01, 0xFF] 7 = some (empty.withUpdate [0x01, 0xFF] 7) := by
    decide +kernel
  obtain ⟨_, replaced, kept, apart⟩ := follows _ updated
  refine ⟨_, updated, replaced 0 (by decide) (by decide), kept 0 (by decide), apart 8 (by decide), ?_⟩
  exact ((addresses_changes_updates _ empty).1.1 64).mp (by decide)

/-- The byte behind the last place of all is not ignored: its place is no word. -/
theorem not_updates_ignored :
    ¬ ∀ (bitmap : OnlineBitmap) (update : Bytes) (offset : Nat), offset < wordLimit →
        ∃ after, bitmap.withUpdate? update offset = some after := by
  intro updates
  obtain ⟨after, updated⟩ := updates empty [1, 2] (wordLimit - 1) (by decide)
  have stops : empty.withUpdate? [1, 2] (wordLimit - 1) = none :=
    withUpdate?_eq_none_iff.mpr ⟨1, by decide, by decide⟩
  cases stops.symm.trans updated

end OnlineBitmap

end HeatingBus
