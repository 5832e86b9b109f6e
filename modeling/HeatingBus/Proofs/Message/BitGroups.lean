import HeatingBus.Proofs.Field.Bits
import HeatingBus.Proofs.Message.Writes
import Mathlib.Data.List.Nodup

/-!
# Groups and names

The groups of a layout are built by entering one field after the other. Whatever has been entered,
each group is what the boolean fields of its byte make of it, and so the groups of a layout hold its
boolean fields, each of them once, and their masks hold the bits of these fields. The names of a
layout stand for one field each. Nothing that is looked up for a write is ever missing.
-/

namespace HeatingBus

open HeatingBus.Field

namespace BitGroup

/-! ## Fields of one byte -/

def bitAt? (position : Nat) (entry : Field × Nat) : Option (UInt8 × Nat) :=
  if entry.1.position = position then entry.1.bit?.map (·, entry.2) else none

def bitsAt (position : Nat) (entries : List (Field × Nat)) : List (UInt8 × Nat) :=
  entries.filterMap (bitAt? position)

def maskOf (bits : List (UInt8 × Nat)) : UInt8 :=
  bits.foldl (fun mask bit => mask ||| bitMask bit.1) 0

def gathered (entries : List (Field × Nat)) (position : Nat) : BitGroup where
  position := position
  members := (bitsAt position entries).map Prod.snd
  mask := maskOf (bitsAt position entries)

section
variable {fields : List Field} {entries : List (Field × Nat)} {entry : Field × Nat}
  {groups : List BitGroup} {group : BitGroup} {position index place : Nat} {bit : UInt8}

theorem bitsAt_concat :
    bitsAt position (entries ++ [entry]) =
      bitsAt position entries ++ (bitAt? position entry).toList := by
  rw [bitsAt, List.filterMap_append, List.filterMap_cons, List.filterMap_nil]
  cases bitAt? position entry <;> rfl

theorem gathered_concat_of_ne (other : bitAt? position entry = none) :
    gathered (entries ++ [entry]) position = gathered entries position := by
  simp only [gathered, bitsAt_concat, other, Option.toList_none, List.append_nil]

theorem gathered_concat_self (own : bitAt? position entry = some (bit, index)) :
    gathered (entries ++ [entry]) position =
      { gathered entries position with
        members := (gathered entries position).members ++ [index]
        mask := (gathered entries position).mask ||| bitMask bit } := by
  simp only [gathered, maskOf, bitsAt_concat, own, Option.toList_some, List.map_append,
    List.foldl_append, List.map_cons, List.map_nil, List.foldl_cons, List.foldl_nil]

theorem mem_bitsAt_iff :
    (bit, index) ∈ bitsAt position fields.zipIdx ↔
      ∃ field, fields[index]? = some field ∧ field.position = position ∧ field.bit? = some bit := by
  rw [bitsAt, List.mem_filterMap]
  constructor
  · rintro ⟨⟨field, place⟩, entered, own⟩
    rw [bitAt?] at own
    split at own
    · rename_i same
      obtain ⟨found, boolean, pair⟩ := Option.map_eq_some_iff.mp own
      cases pair
      exact ⟨field, List.mem_zipIdx_iff_getElem?.mp entered, same, boolean⟩
    · cases own
  · rintro ⟨field, declared, same, boolean⟩
    refine ⟨(field, index), List.mem_zipIdx_iff_getElem?.mpr declared, ?_⟩
    rw [bitAt?, if_pos same, boolean]
    rfl

/-! ## Entering fields -/

/-- Whether groups are what the entered fields make of their bytes, one for each byte. -/
structure Gathers (groups : List BitGroup) (entries : List (Field × Nat)) : Prop where
  positions : (groups.map BitGroup.position).Nodup
  all : ∀ group ∈ groups, group = gathered entries group.position
  none_missing : ∀ position, position ∉ groups.map BitGroup.position →
    bitsAt position entries = []

theorem positions_insert :
    (insert position index bit groups).map BitGroup.position =
      if position ∈ groups.map BitGroup.position then groups.map BitGroup.position
      else groups.map BitGroup.position ++ [position] := by
  induction groups with
  | nil => simp [insert]
  | cons group rest inductionHypothesis =>
    rw [insert]
    split
    · rename_i same
      simp [same]
    · rename_i other
      simp only [List.map_cons, inductionHypothesis, List.mem_cons, Ne.symm other, false_or,
        List.cons_append]
      split <;> rfl

/-- Inserting a bit leaves every group but that of its byte alone. -/
theorem cases_of_mem_insert (distinct : (groups.map BitGroup.position).Nodup)
    (listed : group ∈ insert position index bit groups) :
    (group ∈ groups ∧ group.position ≠ position) ∨
      (∃ old ∈ groups, old.position = position ∧
        group = { old with members := old.members ++ [index], mask := old.mask ||| bitMask bit }) ∨
      (position ∉ groups.map BitGroup.position ∧ group = ⟨position, [index], bitMask bit⟩) := by
  induction groups with
  | nil => exact .inr (.inr ⟨by simp, List.mem_singleton.mp listed⟩)
  | cons first rest inductionHypothesis =>
    rw [List.map_cons, List.nodup_cons] at distinct
    rw [insert] at listed
    split at listed
    · rename_i same
      rcases List.mem_cons.mp listed with grown | behind
      · exact .inr (.inl ⟨first, List.mem_cons_self, same, grown⟩)
      · refine .inl ⟨List.mem_cons_of_mem _ behind, fun clash => distinct.1 ?_⟩
        rw [same, ← clash]
        exact List.mem_map_of_mem behind
    · rename_i other
      rcases List.mem_cons.mp listed with rfl | behind
      · exact .inl ⟨List.mem_cons_self, other⟩
      · rcases inductionHypothesis distinct.2 behind with kept | ⟨old, before, grown⟩ | ⟨new, made⟩
        · exact .inl ⟨List.mem_cons_of_mem _ kept.1, kept.2⟩
        · exact .inr (.inl ⟨old, List.mem_cons_of_mem _ before, grown⟩)
        · refine .inr (.inr ⟨?_, made⟩)
          rw [List.map_cons, List.mem_cons, not_or]
          exact ⟨Ne.symm other, new⟩

theorem gathers_nil : Gathers [] [] where
  positions := List.nodup_nil
  all := nofun
  none_missing := fun _ _ => rfl

theorem Gathers.insert (gathers : Gathers groups entries) (boolean : entry.1.bit? = some bit) :
    Gathers (insert entry.1.position entry.2 bit groups) (entries ++ [entry]) := by
  have own : bitAt? entry.1.position entry = some (bit, entry.2) := by
    rw [bitAt?, if_pos rfl, boolean]
    rfl
  have apart {position : Nat} (other : position ≠ entry.1.position) :
      bitAt? position entry = none := if_neg (Ne.symm other)
  refine ⟨?_, fun group listed => ?_, fun position missing => ?_⟩
  -- A new group is put at the end only if no group has its position.
  · rw [positions_insert]
    split
    · exact gathers.positions
    · rename_i new
      rw [← List.concat_eq_append]
      exact gathers.positions.concat new
  · rcases cases_of_mem_insert gathers.positions listed with
      ⟨kept, other⟩ | ⟨old, before, same, grown⟩ | ⟨new, made⟩
    · rw [gathered_concat_of_ne (apart other)]
      exact gathers.all group kept
    · have position : group.position = entry.1.position := by rw [grown, ← same]
      rw [position, gathered_concat_self own, grown, ← same, ← gathers.all old before]
    · rw [made, gathered_concat_self own]
      simp only [gathered, maskOf, gathers.none_missing _ new, List.map_nil, List.nil_append,
        List.foldl_nil, UInt8.zero_or]
  · rw [positions_insert] at missing
    have listed : position ≠ entry.1.position ∧ position ∉ groups.map BitGroup.position := by
      split at missing
      · rename_i present
        exact ⟨fun clash => missing (clash ▸ present), missing⟩
      · rw [List.mem_append, not_or, List.mem_singleton] at missing
        exact ⟨missing.2, missing.1⟩
    rw [bitsAt_concat, apart listed.1, gathers.none_missing position listed.2]
    rfl

theorem Gathers.enter (gathers : Gathers groups entries) (entry : Field × Nat) :
    Gathers (enter groups entry) (entries ++ [entry]) := by
  cases boolean : entry.1.bit? with
  | some bit =>
    rw [BitGroup.enter, boolean]
    exact gathers.insert boolean
  | none =>
    have other (position : Nat) : bitAt? position entry = none := by
      rw [bitAt?, boolean]
      exact ite_self none
    rw [BitGroup.enter, boolean]
    refine ⟨gathers.positions, fun group listed => ?_, fun position missing => ?_⟩
    · rw [gathered_concat_of_ne (other _)]
      exact gathers.all group listed
    · rw [bitsAt_concat, other, gathers.none_missing position missing]
      rfl

theorem Gathers.foldl (gathers : Gathers groups entries) (more : List (Field × Nat)) :
    Gathers (more.foldl BitGroup.enter groups) (entries ++ more) := by
  induction more generalizing groups entries with
  | nil => rwa [List.append_nil]
  | cons entry rest inductionHypothesis =>
    rw [List.foldl_cons, List.append_cons]
    exact inductionHypothesis (gathers.enter entry)

theorem gathers_ofFields (fields : List Field) : Gathers (ofFields fields) fields.zipIdx :=
  gathers_nil.foldl fields.zipIdx

/-! ## Bits of a mask -/

theorem testBit_maskOf {bits : List (UInt8 × Nat)} (bounds : ∀ entry ∈ bits, entry.1 ≤ 7) :
    (maskOf bits).toNat.testBit place = true ↔ ∃ entry ∈ bits, entry.1.toNat = place := by
  have general (mask : UInt8) :
      (bits.foldl (fun mask bit => mask ||| bitMask bit.1) mask).toNat.testBit place = true ↔
        mask.toNat.testBit place = true ∨ ∃ entry ∈ bits, entry.1.toNat = place := by
    induction bits generalizing mask with
    | nil => simp
    | cons first rest inductionHypothesis =>
      rw [List.forall_mem_cons] at bounds
      rw [List.foldl_cons, inductionHypothesis bounds.2, UInt8.toNat_or, Nat.testBit_or,
        testBit_bitMask bounds.1]
      simp [or_assoc]
  have empty : (0 : UInt8).toNat.testBit place = false := Nat.zero_testBit place
  rw [maskOf, general, empty]
  simp

/-- A mask has as many bits as there are bits in it that differ. -/
theorem length_filter_testBit_maskOf {bits : List (UInt8 × Nat)}
    (bounds : ∀ entry ∈ bits, entry.1 ≤ 7)
    (distinct : (bits.map fun entry => entry.1.toNat).Nodup) :
    ((List.range 8).filter fun place => (maskOf bits).toNat.testBit place).length =
      bits.length := by
  rw [← List.length_map (fun entry : UInt8 × Nat => entry.1.toNat)]
  -- The places of the mask and the bits are the same, and neither list has one of them twice.
  refine List.Perm.length_eq ((List.perm_ext_iff_of_nodup ?_ distinct).mpr fun place => ?_)
  · exact List.nodup_range.filter _
  · rw [List.mem_filter, List.mem_range, testBit_maskOf bounds, List.mem_map]
    refine and_iff_right_of_imp ?_
    rintro ⟨entry, listed, rfl⟩
    exact Nat.lt_succ_of_le (UInt8.le_iff_toNat_le.mp (bounds entry listed))

/-! ## Groups of a sound message -/

/-- Whether groups are those of some fields: each boolean field is in one group, that of its byte,
the members of a group are the boolean fields of its byte, and its mask has their bits and no
others. -/
structure Describes (groups : List BitGroup) (fields : List Field) : Prop where
  positions : (groups.map BitGroup.position).Nodup
  grouped : ∀ (index : Nat) field bit, fields[index]? = some field → field.bit? = some bit →
    ∃ group ∈ groups, group.position = field.position ∧
      ∀ other ∈ groups, index ∈ other.members ↔ other = group
  members : ∀ group ∈ groups, ∀ index, index ∈ group.members ↔ ∃ field bit,
    fields[index]? = some field ∧ field.position = group.position ∧ field.bit? = some bit
  members_distinct : ∀ group ∈ groups, group.members.Nodup
  mask : ∀ group ∈ groups, ∀ place, group.mask.toNat.testBit place = true ↔
    ∃ index ∈ group.members, ∃ field bit, fields[index]? = some field ∧
      field.bit? = some bit ∧ bit.toNat = place
  mask_size : ∀ group ∈ groups,
    ((List.range 8).filter fun place => group.mask.toNat.testBit place).length =
      group.members.length
  undeclared : ∀ group ∈ groups, ∀ place < 8,
    group.undeclaredBits.toNat.testBit place = !group.mask.toNat.testBit place

theorem nodup_members_gathered : (gathered fields.zipIdx position).members.Nodup := by
  have apart : fields.zipIdx.Pairwise fun one other => one.2 ≠ other.2 := by
    rw [← List.pairwise_map, List.zipIdx_map_snd]
    exact List.nodup_range'
  show ((bitsAt position fields.zipIdx).map Prod.snd).Nodup
  rw [bitsAt, List.Nodup, List.pairwise_map, List.pairwise_filterMap]
  refine apart.imp fun {one other} differ => ?_
  intro bit own bit' own'
  simp only [bitAt?] at own own'
  split at own
  · split at own'
    · obtain ⟨_, _, rfl⟩ := Option.map_eq_some_iff.mp own
      obtain ⟨_, _, rfl⟩ := Option.map_eq_some_iff.mp own'
      exact differ
    · cases own'
  · cases own

end

end BitGroup

namespace MessageLayout

section
variable {layout : MessageLayout} {group : BitGroup} {position index place : Nat}

theorem bit_of_mem_bitsAt {entry : UInt8 × Nat}
    (listed : entry ∈ BitGroup.bitsAt position layout.fields.zipIdx) : entry.1 ≤ 7 := by
  obtain ⟨field, declared, _, boolean⟩ := BitGroup.mem_bitsAt_iff.mp listed
  exact bit_of_check (layout.check_field (List.mem_of_getElem? declared)) (kind_of_bit? boolean)

/-- The bits that the fields of a layout have in one byte differ, because each has one owner. -/
theorem nodup_bitsAt :
    ((BitGroup.bitsAt position layout.fields.zipIdx).map fun entry => entry.1.toNat).Nodup := by
  have distinct : (BitGroup.bitsAt position layout.fields.zipIdx).Nodup :=
    List.Nodup.of_map Prod.snd BitGroup.nodup_members_gathered
  refine distinct.map_on fun one listed other listedToo same => ?_
  obtain ⟨field, declared, own, boolean⟩ := BitGroup.mem_bitsAt_iff.mp listed
  obtain ⟨field', declared', own', boolean'⟩ := BitGroup.mem_bitsAt_iff.mp listedToo
  -- Two fields with one bit would both claim it.
  have claims := (claims_of_bit? boolean).mpr ⟨rfl, rfl⟩
  have claims' := (claims_of_bit? boolean').mpr ⟨own.trans own'.symm, same⟩
  have place := layout.isSound_row.bits _ _ _ _ _ _ declared declared' claims claims'
  exact Prod.ext (UInt8.toNat_inj.mp same) place

theorem eq_gathered (listed : group ∈ layout.bitGroups) :
    group = BitGroup.gathered layout.fields.zipIdx group.position :=
  (BitGroup.gathers_ofFields layout.fields).all group listed

theorem mem_members_iff (listed : group ∈ layout.bitGroups) :
    index ∈ group.members ↔ ∃ field bit, layout.fields[index]? = some field ∧
      field.position = group.position ∧ field.bit? = some bit := by
  conv_lhs => rw [eq_gathered listed]
  simp only [BitGroup.gathered, List.mem_map, Prod.exists, BitGroup.mem_bitsAt_iff, exists_eq_right]
  exact exists_comm

theorem testBit_mask_iff (listed : group ∈ layout.bitGroups) :
    group.mask.toNat.testBit place = true ↔ ∃ index ∈ group.members, ∃ field bit,
      layout.fields[index]? = some field ∧ field.bit? = some bit ∧ bit.toNat = place := by
  conv_lhs => rw [eq_gathered listed]
  rw [BitGroup.gathered, BitGroup.testBit_maskOf fun entry => bit_of_mem_bitsAt]
  constructor
  · rintro ⟨⟨bit, index⟩, entered, same⟩
    obtain ⟨field, declared, own, boolean⟩ := BitGroup.mem_bitsAt_iff.mp entered
    have joined := (mem_members_iff listed).mpr ⟨field, bit, declared, own, boolean⟩
    exact ⟨index, joined, field, bit, declared, boolean, same⟩
  · rintro ⟨index, joined, field, bit, declared, boolean, same⟩
    obtain ⟨_, _, declared', own, _⟩ := (mem_members_iff listed).mp joined
    cases declared.symm.trans declared'
    exact ⟨(bit, index), BitGroup.mem_bitsAt_iff.mpr ⟨field, declared, own, boolean⟩, same⟩

theorem describes_bitGroups (layout : MessageLayout) :
    BitGroup.Describes layout.bitGroups layout.fields := by
  have gathers := BitGroup.gathers_ofFields layout.fields
  refine ⟨gathers.positions, fun index field bit declared boolean => ?_,
    fun group listed index => mem_members_iff listed, fun group listed => ?_,
    fun group listed place => testBit_mask_iff listed, fun group listed => ?_,
    fun group listed place inside => testBit_complement inside⟩
  · have isBit : field.bit?.isSome = true := Option.isSome_of_eq_some boolean
    obtain ⟨group, listed, own⟩ := List.mem_map.mp
      (BitGroup.mem_positions_ofFields (List.mem_of_getElem? declared) isBit)
    refine ⟨group, listed, own, fun other listedToo => ?_⟩
    rw [mem_members_iff listedToo]
    constructor
    · rintro ⟨_, _, declared', own', _⟩
      cases declared.symm.trans declared'
      exact List.inj_on_of_nodup_map gathers.positions listedToo listed (own'.symm.trans own.symm)
    · rintro rfl
      exact ⟨field, bit, declared, own.symm, boolean⟩
  · rw [eq_gathered listed]
    exact BitGroup.nodup_members_gathered
  · rw [eq_gathered listed, BitGroup.gathered, List.length_map]
    exact BitGroup.length_filter_testBit_maskOf (fun entry => bit_of_mem_bitsAt) nodup_bitsAt

end

end MessageLayout

/-! ## Writes -/

theorem Message.encodeWrite_ne_internal (message : Message) (name : String) (value : Value)
    (fault : InternalFault) : message.encodeWrite name value ≠ .error (.internal fault) := by
  intro failed
  cases named : message.layout.field? name with
  | none =>
    simp only [encodeWrite, named] at failed
    cases failed
  | some field =>
    rcases encodeWrite_cases named value with ⟨_, refused⟩ | ⟨_, written, _⟩
    · cases refused.symm.trans failed
    · cases written.symm.trans failed

/-- The groups and the names of a layout stand for exactly its fields, and so no write to a message
of the layout fails for want of a group. -/
theorem MessageLayout.groups_and_names (layout : MessageLayout) :
    BitGroup.Describes layout.bitGroups layout.fields ∧
      (∀ name index, layout.fieldIndex? name = some index ↔
        ∃ field, layout.fields[index]? = some field ∧ field.name = name) ∧
      ∀ message : Message, message.layout = layout → ∀ name value fault,
        message.encodeWrite name value ≠ .error (.internal fault) :=
  ⟨layout.describes_bitGroups, fun _ _ => MessageLayout.fieldIndex?_eq_some_iff,
    fun message _ => message.encodeWrite_ne_internal⟩

end HeatingBus
