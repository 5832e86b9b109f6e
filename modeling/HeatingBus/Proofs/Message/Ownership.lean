import HeatingBus.Message.Layout
import HeatingBus.Proofs.Field.Rules
import Mathlib.Data.List.Pairwise

/-!
# Owners of bits

A row is accepted exactly if it is sound: it has bytes, its fields keep the rules of their kinds, no
name is given twice, and no bit of the message belongs to two fields. A boolean field owns its one
bit, and any other field owns all bits of its bytes. The index of an accepted row has the name of
each field with its place, as the check has entered them one by one.
-/

namespace HeatingBus

open HeatingBus.Field

/-! ## Bits of a field -/

namespace Field

/-- Whether a bit of the byte at some place of the message belongs to a field. -/
def Claims (field : Field) (place bit : Nat) : Prop :=
  match field.kind with
  | .boolean own => place = field.position ∧ bit = own.toNat
  | _ => field.position ≤ place ∧ place < field.finish ∧ bit < 8

section
variable {field : Field} {place bit messageLength : Nat}

theorem kind_of_bit? {own : UInt8} (boolean : field.bit? = some own) :
    field.kind = .boolean own := by
  unfold bit? at boolean
  split at boolean
  · rename_i kind
    cases boolean
    exact kind
  · cases boolean

theorem claims_of_bit? {own : UInt8} (boolean : field.bit? = some own) :
    field.Claims place bit ↔ place = field.position ∧ bit = own.toNat := by
  simp only [Claims, kind_of_bit? boolean]

theorem claims_of_whole (whole : field.bit? = none) :
    field.Claims place bit ↔ field.position ≤ place ∧ place < field.finish ∧ bit < 8 := by
  unfold bit? at whole
  cases kind : field.kind with
  | boolean own =>
    rw [kind] at whole
    cases whole
  | integer _ _ | flag _ | date | dateTime | text => simp only [Claims, kind]

/-- A boolean field of a message is one bit of a single byte. -/
theorem IsSound.single {own : UInt8} (sound : field.IsSound messageLength)
    (boolean : field.bit? = some own) : field.finish = field.position + 1 ∧ own.toNat < 8 := by
  have kind := kind_of_bit? boolean
  have single := sound.length
  rw [kind] at single
  refine ⟨congrArg (field.position + ·) single, ?_⟩
  exact Nat.lt_succ_of_le (UInt8.le_iff_toNat_le.mp (sound.bit own kind))

theorem IsSound.positive (sound : field.IsSound messageLength) : 1 ≤ field.length :=
  (length_of_check (check_eq_ok_iff.mpr sound)).1

theorem IsSound.within_of_claims (sound : field.IsSound messageLength)
    (claims : field.Claims place bit) :
    field.position ≤ place ∧ place < field.finish ∧ bit < 8 := by
  cases boolean : field.bit? with
  | none => exact (claims_of_whole boolean).mp claims
  | some own =>
    obtain ⟨last, within⟩ := sound.single boolean
    obtain ⟨rfl, rfl⟩ := (claims_of_bit? boolean).mp claims
    exact ⟨Nat.le_refl _, by omega, within⟩

end

theorem meets_iff {field other : Field} :
    field.meets other = true ↔ field.position < other.finish ∧ other.position < field.finish := by
  rw [meets, Bool.and_eq_true, decide_eq_true_eq, decide_eq_true_eq]

end Field

namespace MessageRow

/-! ## Pairs of fields -/

section
variable {first second : Field} {messageLength : Nat}

theorem mayCoexist_of_bits {one other : UInt8} (boolean : first.bit? = some one)
    (booleanToo : second.bit? = some other) :
    mayCoexist first second = true ↔
      (first.meets second = true → first.position = second.position ∧ one ≠ other) := by
  simp only [mayCoexist, boolean, booleanToo]
  cases first.meets second <;> simp

theorem mayCoexist_of_whole (whole : first.bit? = none ∨ second.bit? = none) :
    mayCoexist first second = true ↔ first.meets second = false := by
  simp only [mayCoexist]
  rcases whole with whole | whole
  · simp [whole]
  · cases first.bit? <;> simp [whole]

/-- Two fields may stand in one message exactly if they have no bit in common. -/
theorem mayCoexist_iff (sound : first.IsSound messageLength)
    (soundToo : second.IsSound messageLength) :
    mayCoexist first second = true ↔
      ∀ place bit, first.Claims place bit → ¬ second.Claims place bit := by
  have positive := sound.positive
  have positiveToo := soundToo.positive
  cases boolean : first.bit? with
  | some one =>
    obtain ⟨last, within⟩ := sound.single boolean
    cases booleanToo : second.bit? with
    | some other =>
      -- The single bytes of two bits meet only where they are the same byte.
      obtain ⟨lastToo, _⟩ := soundToo.single booleanToo
      rw [mayCoexist_of_bits boolean booleanToo, meets_iff, Ne, ← UInt8.toNat_inj]
      simp only [claims_of_bit? boolean, claims_of_bit? booleanToo]
      constructor
      · rintro apart place bit ⟨rfl, rfl⟩ ⟨same, sameBit⟩
        exact (apart (by omega)).2 sameBit
      · intro apart common
        have same : first.position = second.position := by omega
        exact ⟨same, fun sameBit => apart _ _ ⟨rfl, rfl⟩ ⟨same, sameBit⟩⟩
    | none =>
      rw [mayCoexist_of_whole (.inr booleanToo), ← Bool.not_eq_true, meets_iff]
      simp only [claims_of_bit? boolean, claims_of_whole booleanToo]
      constructor
      · rintro apart place bit ⟨rfl, rfl⟩ ⟨starts, ends, _⟩
        exact apart ⟨ends, by omega⟩
      · rintro apart ⟨ends, starts⟩
        exact apart _ _ ⟨rfl, rfl⟩ ⟨by omega, ends, within⟩
  | none =>
    rw [mayCoexist_of_whole (.inl boolean), ← Bool.not_eq_true, meets_iff]
    cases booleanToo : second.bit? with
    | some other =>
      obtain ⟨last, within⟩ := soundToo.single booleanToo
      simp only [claims_of_whole boolean, claims_of_bit? booleanToo]
      constructor
      · rintro apart place bit ⟨starts, ends, _⟩ ⟨rfl, rfl⟩
        exact apart ⟨by omega, ends⟩
      · rintro apart ⟨starts, ends⟩
        exact apart _ _ ⟨by omega, ends, within⟩ ⟨rfl, rfl⟩
    | none =>
      simp only [claims_of_whole boolean, claims_of_whole booleanToo]
      constructor
      · rintro apart place bit ⟨starts, ends, _⟩ ⟨startsToo, endsToo, _⟩
        exact apart ⟨by omega, by omega⟩
      · rintro apart ⟨front, back⟩
        -- The later of the two starts is a byte of both fields.
        have start : first.position < first.finish := by rw [finish]; omega
        have startToo : second.position < second.finish := by rw [finish]; omega
        refine apart (max first.position second.position) 0 ⟨?_, ?_, ?_⟩ ⟨?_, ?_, ?_⟩ <;> omega

end

end MessageRow

/-! ## Names -/

namespace NameIndex

/-- Whether an index has the names of some fields and no others, each with the place of its
field. -/
def Indexes (index : NameIndex) (entries : List (Field × Nat)) : Prop :=
  ∀ name place, index.place? name = some place ↔
    ∃ field, (field, place) ∈ entries ∧ field.name = name

section
variable {index : NameIndex} {name query : String} {place : Nat} {field : Field}
  {entries : List (Field × Nat)}

theorem place?_insert :
    (index.insert name place).place? query =
      if query = name then some place else index.place? query := by
  rw [place?, insert, List.lookup_cons, beq_eq_decide]
  by_cases same : query = name <;> simp [same, place?]

theorem indexes_empty : empty.Indexes [] :=
  fun _ _ => iff_of_false nofun nofun

theorem Indexes.insert (indexes : index.Indexes entries) (new : index.place? field.name = none) :
    (index.insert field.name place).Indexes (entries ++ [(field, place)]) := by
  intro name other
  rw [place?_insert]
  split
  · rename_i own
    subst own
    constructor
    · rintro ⟨⟩
      exact ⟨field, List.mem_append_right _ List.mem_cons_self, rfl⟩
    · rintro ⟨entered, listed, same⟩
      rcases List.mem_append.mp listed with before | last
      -- The name was new, so no field before has it.
      · have known := (indexes field.name other).mpr ⟨entered, before, same⟩
        rw [new] at known
        cases known
      · cases List.mem_singleton.mp last
        rfl
  · rename_i different
    rw [indexes]
    constructor
    · rintro ⟨entered, before, same⟩
      exact ⟨entered, List.mem_append_left _ before, same⟩
    · rintro ⟨entered, listed, same⟩
      rcases List.mem_append.mp listed with before | last
      · exact ⟨entered, before, same⟩
      · cases List.mem_singleton.mp last
        exact absurd same.symm different

end

end NameIndex

namespace MessageRow

/-! ## Rows -/

section
variable {row : MessageRow} {index names : NameIndex} {field : Field} {place : Nat}
  {fields : List Field} {entered entries : List (Field × Nat)}

theorem checkFields_cons_eq_ok_iff :
    row.checkFields index ((field, place) :: entries) = .ok names ↔
      field.IsSound row.length ∧ index.place? field.name = none ∧
        row.checkFields (index.insert field.name place) entries = .ok names := by
  rw [checkFields]
  cases checked : field.check row.length with
  | error fault =>
    refine iff_of_false nofun fun accepted => ?_
    rw [check_eq_ok_iff.mpr accepted.1] at checked
    cases checked
  | ok value =>
    refine Iff.trans ?_ (and_iff_right (check_eq_ok_iff.mp checked)).symm
    cases known : index.place? field.name with
    | some before => exact iff_of_false nofun nofun
    | none => exact (and_iff_right rfl).symm

theorem exists_checkFields_iff :
    (∃ names, row.checkFields index entries = .ok names) ↔
      (∀ entry ∈ entries, entry.1.IsSound row.length) ∧
        (entries.map fun entry => entry.1.name).Nodup ∧
        ∀ entry ∈ entries, index.place? entry.1.name = none := by
  induction entries generalizing index with
  | nil => simp [checkFields]
  | cons entry rest inductionHypothesis =>
    obtain ⟨field, place⟩ := entry
    -- The names after a field differ from its name, because it has joined those before them.
    have others : (∀ other ∈ rest, (index.insert field.name place).place? other.1.name = none) ↔
        field.name ∉ rest.map (fun entry => entry.1.name) ∧
          ∀ other ∈ rest, index.place? other.1.name = none := by
      simp only [NameIndex.place?_insert, List.mem_map, not_exists, not_and, ← forall_and]
      refine forall₂_congr fun other _ => ?_
      split
      · rename_i same
        exact iff_of_false nofun fun apart => apart.1 same
      · rename_i different
        exact (and_iff_right different).symm
    simp only [checkFields_cons_eq_ok_iff, exists_and_left, inductionHypothesis, others,
      List.forall_mem_cons, List.map_cons, List.nodup_cons]
    constructor
    · rintro ⟨sound, new, allSound, distinct, apart, allNew⟩
      exact ⟨⟨sound, allSound⟩, ⟨apart, distinct⟩, new, allNew⟩
    · rintro ⟨⟨sound, allSound⟩, ⟨apart, distinct⟩, new, allNew⟩
      exact ⟨sound, new, allSound, distinct, apart, allNew⟩

/-- The check enters the names of the fields into the index, one after the other. -/
theorem indexes_of_checkFields (indexes : index.Indexes entered)
    (accepted : row.checkFields index entries = .ok names) : names.Indexes (entered ++ entries) := by
  induction entries generalizing index entered with
  | nil =>
    cases accepted
    rwa [List.append_nil]
  | cons entry rest inductionHypothesis =>
    obtain ⟨_, new, later⟩ := checkFields_cons_eq_ok_iff.mp accepted
    rw [List.append_cons]
    exact inductionHypothesis (indexes.insert new) later

theorem conflict?_eq_none_iff :
    conflict? fields = none ↔
      fields.Pairwise fun first second => mayCoexist first second = true := by
  induction fields with
  | nil => simp [conflict?]
  | cons field rest inductionHypothesis =>
    rw [conflict?, List.pairwise_cons, ← inductionHypothesis]
    cases found : rest.find? fun other => !mayCoexist field other with
    | some other =>
      refine iff_of_false nofun fun apart => ?_
      have clash := List.find?_some found
      rw [apart.1 other (List.mem_of_find?_eq_some found)] at clash
      cases clash
    | none =>
      have apart := List.find?_eq_none.mp found
      simp only [Bool.not_eq_true', Bool.not_eq_false] at apart
      exact (and_iff_right apart).symm

structure IsSound (row : MessageRow) : Prop where
  nonempty : 0 < row.length
  fields : ∀ field ∈ row.fields, field.IsSound row.length
  names : (row.fields.map Field.name).Nodup
  /-- No bit of the message belongs to two fields. -/
  bits : ∀ place bit (index other : Nat) first second, row.fields[index]? = some first →
    row.fields[other]? = some second → first.Claims place bit → second.Claims place bit →
    index = other

theorem pairwise_mayCoexist_iff (sound : ∀ field ∈ row.fields, field.IsSound row.length) :
    (row.fields.Pairwise fun first second => mayCoexist first second = true) ↔
      ∀ place bit (index other : Nat) first second, row.fields[index]? = some first →
        row.fields[other]? = some second → first.Claims place bit → second.Claims place bit →
        index = other := by
  rw [List.pairwise_iff_getElem]
  constructor
  · intro apart place bit index other first second declared declaredToo claims claimsToo
    obtain ⟨bound, rfl⟩ := List.getElem?_eq_some_iff.mp declared
    obtain ⟨boundToo, rfl⟩ := List.getElem?_eq_some_iff.mp declaredToo
    have exclusive {one two : Nat} (boundOne : one < row.fields.length)
        (boundTwo : two < row.fields.length) (before : one < two) :=
      (mayCoexist_iff (sound _ (List.getElem_mem boundOne))
        (sound _ (List.getElem_mem boundTwo))).mp (apart one two boundOne boundTwo before) place bit
    -- Pairs are only looked at in the order of the fields.
    rcases Nat.lt_trichotomy index other with before | same | behind
    · exact absurd claimsToo (exclusive bound boundToo before claims)
    · exact same
    · exact absurd claims (exclusive boundToo bound behind claimsToo)
  · intro owned index other bound boundToo before
    refine (mayCoexist_iff (sound _ (List.getElem_mem bound))
      (sound _ (List.getElem_mem boundToo))).mpr fun place bit claims claimsToo => ?_
    have same := owned place bit index other _ _ (List.getElem?_eq_getElem bound)
      (List.getElem?_eq_getElem boundToo) claims claimsToo
    exact Nat.ne_of_lt before same

theorem check_eq_ok_iff :
    row.check = .ok index ↔ 0 < row.length ∧
      row.checkFields .empty row.fields.zipIdx = .ok index ∧ conflict? row.fields = none := by
  rw [check]
  by_cases empty : row.length = 0
  · rw [if_pos empty]
    exact iff_of_false nofun fun accepted => Nat.ne_of_gt accepted.1 empty
  · rw [if_neg empty]
    refine Iff.trans ?_ (and_iff_right (Nat.pos_of_ne_zero empty)).symm
    cases row.checkFields .empty row.fields.zipIdx with
    | error fault => exact iff_of_false nofun nofun
    | ok names =>
      cases conflict? row.fields with
      | some pair => exact iff_of_false nofun nofun
      | none => exact (and_iff_left rfl).symm

theorem exists_check_iff : (∃ index, row.check = .ok index) ↔ row.IsSound := by
  have fields : (∃ index, row.checkFields .empty row.fields.zipIdx = .ok index) ↔
      (∀ field ∈ row.fields, field.IsSound row.length) ∧ (row.fields.map Field.name).Nodup := by
    have entries : row.fields.zipIdx.map Prod.fst = row.fields := List.zipIdx_map_fst 0 row.fields
    rw [exists_checkFields_iff]
    conv => rhs; rw [← entries, List.forall_mem_map, List.map_map]
    exact and_congr_right' (and_iff_left fun _ _ => rfl)
  simp only [check_eq_ok_iff, exists_and_left, exists_and_right, fields, conflict?_eq_none_iff]
  constructor
  · rintro ⟨nonempty, ⟨fields, names⟩, apart⟩
    exact ⟨nonempty, fields, names, (pairwise_mayCoexist_iff fields).mp apart⟩
  · rintro ⟨nonempty, fields, names, bits⟩
    exact ⟨nonempty, ⟨fields, names⟩, (pairwise_mayCoexist_iff fields).mpr bits⟩

theorem indexes_of_check (accepted : row.check = .ok index) : index.Indexes row.fields.zipIdx :=
  indexes_of_checkFields NameIndex.indexes_empty (check_eq_ok_iff.mp accepted).2.1

end

end MessageRow

namespace MessageLayout

theorem isSound_row (layout : MessageLayout) : layout.row.IsSound :=
  MessageRow.exists_check_iff.mp ⟨layout.index, layout.accepted⟩

/-- A row has a layout exactly if it is sound, and the layout is one of that row. Whatever is wrong
with any other row is a fault of the configuration. -/
theorem ofRow_accepts_iff (row : MessageRow) :
    ((∃ layout, ofRow row = .ok layout) ↔ row.IsSound) ∧
      (∀ layout, ofRow row = .ok layout → layout.row = row) ∧
      ∀ error, ofRow row = .error error → ∃ fault, error = .configuration fault := by
  unfold ofRow
  split
  · rename_i index accepted
    refine ⟨iff_of_true ⟨_, rfl⟩ (MessageRow.exists_check_iff.mp ⟨index, accepted⟩), ?_, nofun⟩
    rintro layout ⟨⟩
    rfl
  · rename_i fault refused
    refine ⟨iff_of_false nofun fun sound => ?_, nofun, ?_⟩
    · obtain ⟨index, accepted⟩ := MessageRow.exists_check_iff.mpr sound
      cases accepted.symm.trans refused
    · rintro error ⟨⟩
      exact ⟨fault, rfl⟩

def pumpRow (place : Nat) : MessageRow :=
  .readOnly 0x40 "Pump" 3
    [.integer 0 2 "power" "Power of the pump", .boolean place 3 "running" "Pump running"]

/-- The bit may stand behind the number, but not within it. -/
theorem ofRow_accepts_bit_apart :
    (∃ layout, ofRow (pumpRow 2) = .ok layout ∧ layout.row = pumpRow 2) ∧ (pumpRow 2).IsSound ∧
      (¬ ∃ layout, ofRow (pumpRow 1) = .ok layout) ∧ ¬ (pumpRow 1).IsSound ∧
      ofRow (pumpRow 1) = .error (.configuration (.overlappingFields 0x40 "power" "running")) := by
  obtain ⟨accepts, own, _⟩ := ofRow_accepts_iff (pumpRow 2)
  have accepted : ∃ layout, ofRow (pumpRow 2) = .ok layout := ⟨_, rfl⟩
  have clash : ¬ (pumpRow 1).IsSound := fun sound => by
    -- The bit is the fourth one of the second byte of the number.
    have same := sound.bits 1 3 0 1 _ _ rfl rfl ⟨by decide, by decide, by decide⟩ ⟨rfl, rfl⟩
    cases same
  have refused : ¬ ∃ layout, ofRow (pumpRow 1) = .ok layout :=
    fun made => clash ((ofRow_accepts_iff (pumpRow 1)).1.mp made)
  obtain ⟨layout, made⟩ := accepted
  exact ⟨⟨layout, made, own layout made⟩, accepts.mp ⟨layout, made⟩, refused, clash, rfl⟩

end MessageLayout

end HeatingBus
