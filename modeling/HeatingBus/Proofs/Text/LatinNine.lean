import HeatingBus.Text.LatinNine

/-!
# Characters and bytes

Every byte is one character of the set, and every character of the set is one byte. So a text is
encoded to some bytes exactly if they decode to the text, and any other text is refused for its
first character that is not in the set.
-/

namespace HeatingBus.Text.LatinNine

/-! ## The replaced bytes -/

/-- No two of the replaced bytes stand for the same character. -/
theorem find?_replaced {entry : UInt8 × Char} (listed : entry ∈ replaced) :
    replaced.find? (·.2 = entry.2) = some entry := by
  revert entry
  decide

/-- The characters of the replaced bytes are beyond the numbers of all bytes. -/
theorem le_toNat_of_mem_replaced {entry : UInt8 × Char} (listed : entry ∈ replaced) :
    256 ≤ entry.2.toNat := by
  revert entry
  decide

/-! ## Single characters -/

theorem charOfByte_of_mem {entry : UInt8 × Char} (listed : entry ∈ replaced) :
    charOfByte entry.1 = entry.2 := by
  revert entry
  decide

theorem charOfByte_of_not_mem {byte : UInt8} (kept : ∀ entry ∈ replaced, entry.1 ≠ byte) :
    charOfByte byte = Char.ofNat byte.toNat := by
  have missing : replaced.find? (·.1 = byte) = none :=
    List.find?_eq_none.mpr (by simpa using kept)
  rw [charOfByte, missing]

/-- A byte that is not replaced has the number of its character. -/
theorem toNat_ofNat_toNat (byte : UInt8) : (Char.ofNat byte.toNat).toNat = byte.toNat := by
  have small := byte.toNat_lt
  have valid : byte.toNat.isValidChar := .inl (by omega)
  rw [Char.ofNat, dif_pos valid]
  rfl

theorem byteOfChar?_charOfByte (byte : UInt8) : byteOfChar? (charOfByte byte) = some byte := by
  by_cases kept : ∀ entry ∈ replaced, entry.1 ≠ byte
  · have number := toNat_ofNat_toNat byte
    rw [charOfByte_of_not_mem kept]
    have missing : replaced.find? (·.2 = Char.ofNat byte.toNat) = none := by
      refine List.find?_eq_none.mpr fun entry listed same => ?_
      have beyond := le_toNat_of_mem_replaced listed
      rw [of_decide_eq_true same, number] at beyond
      exact Nat.not_lt.mpr beyond byte.toNat_lt
    have unreplaced : ¬ replaced.any (·.1.toNat = byte.toNat) := by
      simpa [← UInt8.toNat_inj] using kept
    rw [byteOfChar?, missing, number]
    rw [if_pos ⟨byte.toNat_lt, unreplaced⟩, UInt8.ofNat_toNat]
  · simp only [Classical.not_forall, Classical.not_not] at kept
    obtain ⟨entry, listed, rfl⟩ := kept
    rw [charOfByte_of_mem listed, byteOfChar?, find?_replaced listed]

theorem charOfByte_of_byteOfChar? {c : Char} {byte : UInt8} (found : byteOfChar? c = some byte) :
    charOfByte byte = c := by
  rw [byteOfChar?] at found
  split at found
  · rename_i code listed
    cases found
    have same := List.find?_some listed
    rw [charOfByte_of_mem (List.mem_of_find?_eq_some listed)]
    exact of_decide_eq_true same
  · split at found
    · rename_i within
      cases found
      have number : (UInt8.ofNat c.toNat).toNat = c.toNat :=
        UInt8.toNat_ofNat_of_lt' within.1
      have kept : ∀ entry ∈ replaced, entry.1 ≠ UInt8.ofNat c.toNat := by
        intro entry listed same
        apply within.2
        rw [List.any_eq_true]
        exact ⟨entry, listed, by rw [same, number]; simp⟩
      rw [charOfByte_of_not_mem kept, number, Char.ofNat_toNat]
    · cases found

/-! ## Members -/

/-- The characters numbered below 256 that are not in the set. -/
def displaced : List Char := ['¤', '¦', '¨', '´', '¸', '¼', '½', '¾']

/-- The characters that have their bytes instead. -/
def newcomers : List Char := ['€', 'Š', 'š', 'Ž', 'ž', 'Œ', 'œ', 'Ÿ']

def IsMember (c : Char) : Prop :=
  c.toNat < 256 ∧ c ∉ displaced ∨ c ∈ newcomers

theorem any_replaced_iff {c : Char} :
    replaced.any (·.1.toNat = c.toNat) = true ↔ c ∈ displaced := by
  have numbers : replaced.map (·.1.toNat) = displaced.map Char.toNat := by decide
  have listed : c.toNat ∈ displaced.map Char.toNat ↔ c ∈ displaced := by
    simp [List.mem_map, Char.toNat_inj]
  rw [← listed, ← numbers]
  simp

theorem byteOfChar?_eq_none_iff {c : Char} : byteOfChar? c = none ↔ ¬ IsMember c := by
  have characters : replaced.map (·.2) = newcomers := by decide
  rw [byteOfChar?, IsMember]
  cases found : replaced.find? (·.2 = c) with
  | some entry =>
    have same := List.find?_some found
    have newcomer : c ∈ newcomers := by
      rw [← characters, ← of_decide_eq_true same]
      exact List.mem_map_of_mem (List.mem_of_find?_eq_some found)
    simp [newcomer]
  | none =>
    have missing : c ∉ newcomers := by
      rw [← characters, List.mem_map]
      rintro ⟨entry, listed, same⟩
      exact List.find?_eq_none.mp found entry listed (decide_eq_true same)
    simp only [any_replaced_iff, missing, or_false, ite_eq_right_iff, reduceCtorEq, imp_false]

theorem isMember_charOfByte (byte : UInt8) : IsMember (charOfByte byte) :=
  Classical.byContradiction fun foreign => by
    have missing := byteOfChar?_eq_none_iff.mpr foreign
    rw [byteOfChar?_charOfByte] at missing
    cases missing

/-! ## Texts -/

theorem encodeChars_map_charOfByte (bytes : Bytes) :
    encodeChars (bytes.map charOfByte) = .ok bytes := by
  induction bytes with
  | nil => rfl
  | cons byte bytes inductionHypothesis =>
    simp [encodeChars, byteOfChar?_charOfByte, inductionHypothesis, Except.map]

theorem map_charOfByte_of_encodeChars {characters : List Char} {bytes : Bytes}
    (encoded : encodeChars characters = .ok bytes) : bytes.map charOfByte = characters := by
  induction characters generalizing bytes with
  | nil =>
    cases encoded
    rfl
  | cons c rest inductionHypothesis =>
    rw [encodeChars] at encoded
    cases found : byteOfChar? c with
    | none =>
      rw [found] at encoded
      cases encoded
    | some byte =>
      cases others : encodeChars rest with
      | error other =>
        rw [found, others] at encoded
        cases encoded
      | ok tail =>
        rw [found, others] at encoded
        cases encoded
        rw [List.map_cons, charOfByte_of_byteOfChar? found, inductionHypothesis others]

/-- A text is encoded to some bytes exactly if they decode to the text. -/
theorem encode_eq_ok_iff {text : String} {bytes : Bytes} :
    encode text = .ok bytes ↔ decode bytes = text := by
  rw [encode, decode]
  constructor
  · intro encoded
    rw [map_charOfByte_of_encodeChars encoded, String.ofList_toList]
  · rintro rfl
    rw [String.toList_ofList, encodeChars_map_charOfByte]

/-- A text is as long as its bytes. -/
theorem length_of_encode {text : String} {bytes : Bytes} (encoded : encode text = .ok bytes) :
    bytes.length = text.length := by
  rw [← encode_eq_ok_iff.mp encoded, decode, String.length_ofList, List.length_map]

def IsFirstForeign (characters : List Char) (c : Char) : Prop :=
  ∃ before after, characters = before ++ c :: after ∧ (∀ other ∈ before, IsMember other) ∧
    ¬ IsMember c

theorem encodeChars_eq_error_iff {characters : List Char} {c : Char} :
    encodeChars characters = .error c ↔ IsFirstForeign characters c := by
  induction characters with
  | nil => simp [encodeChars, IsFirstForeign]
  | cons first rest inductionHypothesis =>
    rw [encodeChars]
    cases found : byteOfChar? first with
    | none =>
      have foreign : ¬ IsMember first := byteOfChar?_eq_none_iff.mp found
      simp only [Except.error.injEq]
      constructor
      · rintro rfl
        exact ⟨[], rest, rfl, by simp, foreign⟩
      · rintro ⟨before, after, split, members, _⟩
        cases before with
        | nil => exact (List.cons.inj split).1
        | cons other before =>
          obtain ⟨rfl, _⟩ := List.cons.inj split
          exact absurd (members _ List.mem_cons_self) foreign
    | some byte =>
      have member : IsMember first := Classical.byContradiction fun foreign => by
        rw [byteOfChar?_eq_none_iff.mpr foreign] at found
        cases found
      have later : (encodeChars rest).map (byte :: ·) = .error c ↔ encodeChars rest = .error c := by
        cases encodeChars rest <;> simp [Except.map]
      refine later.trans (inductionHypothesis.trans ?_)
      constructor
      · rintro ⟨before, after, rfl, members, foreign⟩
        exact ⟨first :: before, after, rfl, List.forall_mem_cons.mpr ⟨member, members⟩, foreign⟩
      · rintro ⟨before, after, split, members, foreign⟩
        cases before with
        | nil =>
          obtain ⟨rfl, _⟩ := List.cons.inj split
          exact absurd member foreign
        | cons other before =>
          obtain ⟨_, rfl⟩ := List.cons.inj split
          exact ⟨before, after, rfl, (List.forall_mem_cons.mp members).2, foreign⟩

theorem encode_eq_error_iff {text : String} {c : Char} :
    encode text = .error c ↔ IsFirstForeign text.toList c :=
  encodeChars_eq_error_iff

theorem exists_encode_eq_ok_iff {text : String} :
    (∃ bytes, encode text = .ok bytes) ↔ ∀ c ∈ text.toList, IsMember c := by
  constructor
  · rintro ⟨bytes, encoded⟩ c listed
    rw [← encode_eq_ok_iff.mp encoded, decode, String.toList_ofList, List.mem_map] at listed
    obtain ⟨byte, _, rfl⟩ := listed
    exact isMember_charOfByte byte
  · intro members
    cases encoded : encode text with
    | ok bytes => exact ⟨bytes, rfl⟩
    | error c =>
      obtain ⟨before, after, split, _, foreign⟩ := encode_eq_error_iff.mp encoded
      exact absurd (members c (by simp [split])) foreign

end HeatingBus.Text.LatinNine
