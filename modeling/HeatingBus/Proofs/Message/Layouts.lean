import HeatingBus.Proofs.Message.Ownership

/-!
# Accepted layouts

What the check of a row has established of the fields of its layout: each of them keeps the rules of
its kind and ends within the message, is found under its name and no other, and has a group of bits
if it is a boolean one.
-/

namespace HeatingBus

/-! ## Fields -/

namespace MessageLayout

theorem check_field (layout : MessageLayout) {field : Field} (declared : field ∈ layout.fields) :
    field.check layout.length = .ok () :=
  Field.check_eq_ok_iff.mpr (layout.isSound_row.fields field declared)

section
variable {layout : MessageLayout} {name : String} {place : Nat} {field : Field}

/-- A name stands for the one field that has it. -/
theorem fieldIndex?_eq_some_iff :
    layout.fieldIndex? name = some place ↔
      ∃ field, layout.fields[place]? = some field ∧ field.name = name := by
  refine (MessageRow.indexes_of_check layout.accepted name place).trans (exists_congr fun _ => ?_)
  exact and_congr_left fun _ => List.mem_zipIdx_iff_getElem?

/-- The field of a name stands at the place of the name. -/
theorem exists_fieldIndex? (declared : layout.field? name = some field) :
    ∃ index, layout.fieldIndex? name = some index ∧ layout.fields[index]? = some field :=
  Option.bind_eq_some_iff.mp declared

theorem mem_of_field? (declared : layout.field? name = some field) : field ∈ layout.fields := by
  obtain ⟨_, _, listed⟩ := exists_fieldIndex? declared
  exact List.mem_of_getElem? listed

theorem name_of_field? (declared : layout.field? name = some field) : field.name = name := by
  obtain ⟨index, indexed, listed⟩ := exists_fieldIndex? declared
  obtain ⟨other, listedToo, named⟩ := fieldIndex?_eq_some_iff.mp indexed
  cases listed.symm.trans listedToo
  exact named

end

end MessageLayout

/-! ## Groups of bits -/

namespace BitGroup

section
variable {position place index : Nat} {bit : UInt8} {groups : List BitGroup}

/-- One more field adds the group of its byte to the groups, unless it is there already. -/
theorem mem_positions_insert :
    place ∈ (insert position index bit groups).map BitGroup.position ↔
      place = position ∨ place ∈ groups.map BitGroup.position := by
  induction groups with
  | nil => simp [insert]
  | cons group rest inductionHypothesis =>
    rw [insert]
    split
    · rename_i same
      simp [same]
    · rw [List.map_cons, List.mem_cons, inductionHypothesis, List.map_cons, List.mem_cons]
      exact or_left_comm

end

/-- The groups with one more field at its place in the list of fields, if it is a boolean one. -/
def enter (groups : List BitGroup) (entry : Field × Nat) : List BitGroup :=
  match entry.1.bit? with
  | some bit => insert entry.1.position entry.2 bit groups
  | none => groups

theorem ofFields_eq_foldl (fields : List Field) : ofFields fields = fields.zipIdx.foldl enter [] :=
  rfl

theorem mem_positions_foldl {place : Nat} {entries : List (Field × Nat)} {groups : List BitGroup} :
    place ∈ (entries.foldl enter groups).map BitGroup.position ↔
      place ∈ groups.map BitGroup.position ∨
        ∃ entry ∈ entries, entry.1.bit?.isSome = true ∧ entry.1.position = place := by
  induction entries generalizing groups with
  | nil => simp
  | cons entry rest inductionHypothesis =>
    rw [List.foldl_cons, inductionHypothesis, enter]
    cases boolean : entry.1.bit? with
    | none => simp [boolean]
    | some bit =>
      rw [mem_positions_insert, or_comm (a := place = _), or_assoc, @eq_comm _ place]
      simp [boolean]

/-- There is a group for every byte with a boolean field. -/
theorem mem_positions_ofFields {fields : List Field} {field : Field} (declared : field ∈ fields)
    (boolean : field.bit?.isSome = true) :
    field.position ∈ (ofFields fields).map BitGroup.position := by
  obtain ⟨index, bound, rfl⟩ := List.getElem_of_mem declared
  rw [ofFields_eq_foldl, mem_positions_foldl]
  have entered : (fields[index], index) ∈ fields.zipIdx := by
    rw [List.mem_zipIdx_iff_getElem?, List.getElem?_eq_getElem bound]
  exact .inr ⟨_, entered, boolean, rfl⟩

end BitGroup

namespace MessageLayout

theorem exists_bitGroup? {layout : MessageLayout} {field : Field} (declared : field ∈ layout.fields)
    (boolean : field.bit?.isSome = true) :
    ∃ group, layout.bitGroup? field.position = some group ∧ group.position = field.position := by
  obtain ⟨group, listed, own⟩ :=
    List.mem_map.mp (BitGroup.mem_positions_ofFields declared boolean)
  cases found : layout.bitGroup? field.position with
  | some other =>
    have same := List.find?_some found
    exact ⟨other, rfl, of_decide_eq_true same⟩
  | none =>
    have differs := List.find?_eq_none.mp found group listed
    exact absurd (decide_eq_true own) differs

end MessageLayout

end HeatingBus
