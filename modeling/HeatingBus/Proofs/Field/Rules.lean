import HeatingBus.Field.Basic

/-!
# Rules of fields

What the check of a field establishes: the field keeps the rules of its kind and ends within the
message. A field claims the bits of the message that its value is made of, and two fields may stand
in one message exactly if they claim no bit both.
-/

namespace HeatingBus

/-! ## Checked fields -/

def FieldKind.Allows : FieldKind → Nat → Prop
  | integer _ _, length => 1 ≤ length ∧ length ≤ 4
  | boolean _, length | flag _, length => length = 1
  | date, length => length = 3
  | dateTime, length => length = 5 ∨ length = 6
  | text, length => 1 ≤ length ∧ length ≤ 8

theorem FieldKind.allows_iff {kind : FieldKind} {length : Nat} :
    kind.Allows length ↔ kind.lengthBounds.1 ≤ length ∧ length ≤ kind.lengthBounds.2 := by
  cases kind with
  | integer scale signed => rfl
  | text => rfl
  | boolean bit | flag onValue | date | dateTime =>
    simp only [Allows, lengthBounds]
    omega

namespace Field

structure IsSound (field : Field) (messageLength : Nat) : Prop where
  length : field.kind.Allows field.length
  ends : field.finish ≤ messageLength
  bit : ∀ bit, field.kind = .boolean bit → bit ≤ 7
  factor : ∀ scale signed, field.kind = .integer (some scale) signed → scale.factor ≠ 0

variable {field : Field} {messageLength : Nat}

theorem check_eq_ok_iff : field.check messageLength = .ok () ↔ field.IsSound messageLength := by
  simp only [check]
  split
  · rename_i misfit
    refine iff_of_false nofun fun sound => ?_
    have allowed := FieldKind.allows_iff.mp sound.length
    omega
  · rename_i allowed
    split
    · rename_i beyond
      exact iff_of_false nofun fun sound => Nat.not_le_of_lt beyond sound.ends
    · rename_i within
      have sized : field.kind.Allows field.length := FieldKind.allows_iff.mpr (by omega)
      have ends : field.finish ≤ messageLength := Nat.not_lt.mp within
      -- What is left to check is the bit of a boolean field and the factor of a scaled one.
      cases kind : field.kind with
      | boolean bit =>
        by_cases high : 7 < bit
        · simp only [if_pos high]
          exact iff_of_false nofun fun sound => UInt8.not_lt.mpr (sound.bit bit kind) high
        · simp only [if_neg high, true_iff]
          refine ⟨sized, ends, fun other same => ?_, fun _ _ other => ?_⟩
          · cases kind.symm.trans same
            exact UInt8.not_lt.mp high
          · cases kind.symm.trans other
      | integer scale signed =>
        cases scale with
        | none =>
          refine iff_of_true rfl ⟨sized, ends, fun _ other => ?_, fun _ _ other => ?_⟩
          · cases kind.symm.trans other
          · cases kind.symm.trans other
        | some scale =>
          by_cases zero : scale.factor = 0
          · simp only [if_pos zero]
            exact iff_of_false nofun fun sound => sound.factor scale signed kind zero
          · simp only [if_neg zero, true_iff]
            refine ⟨sized, ends, fun _ other => ?_, fun _ _ same => ?_⟩
            · cases kind.symm.trans other
            · cases kind.symm.trans same
              exact zero
      | flag _ | date | dateTime | text =>
        refine iff_of_true rfl ⟨sized, ends, fun _ other => ?_, fun _ _ other => ?_⟩
        · cases kind.symm.trans other
        · cases kind.symm.trans other

theorem lengthBounds_of_check (accepted : field.check messageLength = .ok ()) :
    field.kind.lengthBounds.1 ≤ field.length ∧ field.length ≤ field.kind.lengthBounds.2 ∧
      field.finish ≤ messageLength := by
  have sound := check_eq_ok_iff.mp accepted
  obtain ⟨least, greatest⟩ := FieldKind.allows_iff.mp sound.length
  exact ⟨least, greatest, sound.ends⟩

/-- No field is empty, and none is longer than the longest text. -/
theorem length_of_check (accepted : field.check messageLength = .ok ()) :
    1 ≤ field.length ∧ field.length ≤ 8 ∧ field.finish ≤ messageLength := by
  obtain ⟨least, greatest, ends⟩ := lengthBounds_of_check accepted
  have widest : 1 ≤ field.kind.lengthBounds.1 ∧ field.kind.lengthBounds.2 ≤ 8 := by
    cases field.kind <;> simp [FieldKind.lengthBounds]
  omega

theorem bit_of_check (accepted : field.check messageLength = .ok ()) {bit : UInt8}
    (boolean : field.kind = .boolean bit) : bit ≤ 7 :=
  (check_eq_ok_iff.mp accepted).bit bit boolean

theorem factor_of_check (accepted : field.check messageLength = .ok ()) {scale : Scale}
    {signed : Bool} (scaled : field.kind = .integer (some scale) signed) : scale.factor ≠ 0 :=
  (check_eq_ok_iff.mp accepted).factor scale signed scaled

end Field

end HeatingBus
