import HeatingBus.Catalog.KnownMessages
import HeatingBus.Proofs.Message.History

/-!
# Fresh values

A message keeps the last known bytes and, beside them, the values that were decoded from them. A
value is fresh if it is the one that the bytes in the buffer decode to now. A window that covers a
field makes its value fresh if it is the first to do so or brings other bytes than those in the
buffer, and otherwise leaves the value as fresh as it was. So a value goes stale when a window cuts
its field, and a window that repeats what the cut has left there does not mend it.
-/

namespace HeatingBus

namespace Message

/-- Whether the value that is kept of a field is the one that the bytes in the buffer decode to. -/
def IsFresh (message : Message) (index : Nat) (field : Field) : Prop :=
  message.values[index]? = some (field, (field.decode message.buffer).toOption)

instance (message : Message) (index : Nat) (field : Field) :
    Decidable (message.IsFresh index field) :=
  inferInstanceAs (Decidable (_ = _))

/-! ## One update -/

section
variable {message : Message} {window : Window} {index : Nat} {field : Field}

theorem isFresh_iff {reading : Reading} (declared : message.layout.fields[index]? = some field)
    (known : message.readings[index]? = some reading) :
    message.IsFresh index field ↔ reading.value? = (field.decode message.buffer).toOption := by
  rw [IsFresh, getElem?_values declared known, Option.some.injEq, Prod.mk.injEq]
  exact and_iff_right rfl

/-- A window that is reported makes the value of the field fresh. -/
theorem isFresh_absorb_of_reports (fits : window.FitsInto message.layout)
    (declared : message.layout.fields[index]? = some field)
    (reported : message.reports window.bytes window.offset index = true) :
    (message.absorb window).IsFresh index field := by
  obtain ⟨reading, known⟩ := exists_reading declared
  have decoded := getElem?_readings_absorb fits declared known
  rw [if_pos reported] at decoded
  rw [isFresh_iff (declared_absorb declared) decoded, Reading.value?_ofBuffer]

/-- A window that is not reported and leaves what the field decodes to alone changes nothing about
the freshness of its value. -/
theorem isFresh_absorb_of_not_reports (fits : window.FitsInto message.layout)
    (declared : message.layout.fields[index]? = some field)
    (unreported : message.reports window.bytes window.offset index = false)
    (same : field.decode (overwrite message.buffer window.bytes window.offset) =
      field.decode message.buffer) :
    (message.absorb window).IsFresh index field ↔ message.IsFresh index field := by
  obtain ⟨reading, known⟩ := exists_reading declared
  have kept := getElem?_readings_absorb fits declared known
  rw [unreported] at kept
  rw [isFresh_iff (declared_absorb declared) kept, isFresh_iff declared known, buffer_absorb fits,
    same]
  rfl

/-- When a window that covers a field leaves its value fresh. -/
theorem isFresh_absorb_of_covers (fits : window.FitsInto message.layout)
    (declared : message.layout.fields[index]? = some field)
    (covered : window.covers field = true) :
    (message.absorb window).IsFresh index field ↔
      message.readings[index]? = some .unseen ∨
        field.differs window.bytes window.offset message.buffer = true ∨
        message.IsFresh index field := by
  obtain ⟨reading, known⟩ := exists_reading declared
  have reported : message.reports window.bytes window.offset index = _ :=
    reports_eq declared known
  rw [Window.covers] at covered
  rw [covered, Bool.true_and] at reported
  rw [known, Option.some.injEq]
  cases first : reading.isUnseen with
  | true =>
    rw [first, Bool.true_or] at reported
    exact iff_of_true (isFresh_absorb_of_reports fits declared reported)
      (.inl (Reading.isUnseen_iff.mp first))
  | false =>
    rw [first, Bool.false_or] at reported
    have seen : reading ≠ .unseen := fun unseen => by simp [unseen, Reading.isUnseen] at first
    cases differs : field.differs window.bytes window.offset message.buffer with
    | true =>
      rw [differs] at reported
      exact iff_of_true (isFresh_absorb_of_reports fits declared reported) (.inr (.inl rfl))
    | false =>
      rw [differs] at reported
      -- The old bytes of the field may still be other than those that its value was decoded from.
      rw [isFresh_absorb_of_not_reports fits declared reported
        (Field.decode_overwrite_of_not_differs (room_of_fits fits) covered differs)]
      simp [seen]

/-- A window that does not touch a field leaves its value as fresh as it was. -/
theorem isFresh_absorb_of_not_touches (fits : window.FitsInto message.layout)
    (declared : message.layout.fields[index]? = some field)
    (uncovered : window.covers field = false) (uncut : window.cuts field = false) :
    (message.absorb window).IsFresh index field ↔ message.IsFresh index field := by
  obtain ⟨reading, known⟩ := exists_reading declared
  have unreported : message.reports window.bytes window.offset index = false := by
    rw [Window.covers] at uncovered
    rw [reports_eq declared known, uncovered, Bool.false_and]
  have untouched := Window.not_touches uncovered uncut
  exact isFresh_absorb_of_not_reports fits declared unreported
    (Field.decode_overwrite_of_not_touches (room_of_fits fits) untouched)

end

/-! ## Histories -/

/-- Whether a window that fits has cut a field after another one had covered it. -/
def CutOnceCovered (layout : MessageLayout) (history : List Window) (field : Field) : Prop :=
  ∃ earlier window later, history = earlier ++ window :: later ∧ window.FitsInto layout ∧
    window.cuts field = true ∧ HasCovered layout earlier field

section
variable {layout : MessageLayout} {history : List Window} {index : Nat} {field : Field}

theorem cutOnceCovered_concat {window : Window} :
    CutOnceCovered layout (history ++ [window]) field ↔
      CutOnceCovered layout history field ∨
        window.FitsInto layout ∧ window.cuts field = true ∧ HasCovered layout history field := by
  constructor
  · rintro ⟨earlier, cut, later, split, rest⟩
    -- Either the cut is the last window, or it lies in the history before that.
    cases later using List.reverseRecOn with
    | nil =>
      obtain ⟨rfl, last⟩ := List.append_inj' split rfl
      cases last
      exact .inr rest
    | append_singleton later last =>
      rw [← List.cons_append, ← List.append_assoc] at split
      exact .inl ⟨earlier, cut, later, (List.append_inj' split rfl).1, rest⟩
  · rintro (⟨earlier, cut, later, rfl, rest⟩ | rest)
    · exact ⟨earlier, cut, later ++ [window], by simp, rest⟩
    · exact ⟨history, window, [], rfl, rest⟩

theorem not_cutOnceCovered_of_length_eq_one (single : field.length = 1) :
    ¬ CutOnceCovered layout history field := by
  rintro ⟨_, window, _, _, _, cuts, _⟩
  rw [Window.cuts, Field.isCutBy_of_length_eq_one single] at cuts
  cases cuts

/-- The value of a field that was covered, and not cut since, is fresh. -/
theorem isFresh_after (declared : layout.fields[index]? = some field)
    (covered : HasCovered layout history field)
    (whole : ¬ CutOnceCovered layout history field) :
    (after layout history).IsFresh index field := by
  induction history using List.reverseRecOn with
  | nil => simp [HasCovered] at covered
  | append_singleton history window inductionHypothesis =>
    rw [cutOnceCovered_concat, not_or] at whole
    obtain ⟨wholeBefore, uncut⟩ := whole
    have declaredBefore := declared_after history declared
    rw [after_concat]
    by_cases fits : window.FitsInto layout
    · have fitsBefore : window.FitsInto (after layout history).layout :=
        fitsInto_layout_after.mpr fits
      cases covers : window.covers field with
      | true =>
        -- The value is decoded now, or it was fresh already.
        rw [isFresh_absorb_of_covers fitsBefore declaredBefore covers, unseen_after_iff declared]
        by_cases seen : HasCovered layout history field
        · exact .inr (.inr (inductionHypothesis seen wholeBefore))
        · exact .inl seen
      | false =>
        -- The field was covered earlier, so this window must not cut it and leaves it alone.
        have seen : HasCovered layout history field := by
          rw [hasCovered_concat] at covered
          simpa [covers] using covered
        have cuts : window.cuts field = false := by simpa [fits, seen] using uncut
        rw [isFresh_absorb_of_not_touches fitsBefore declaredBefore covers cuts]
        exact inductionHypothesis seen wholeBefore
    · have seen : HasCovered layout history field := by
        rw [hasCovered_concat] at covered
        simpa [fits] using covered
      rw [absorb_of_not_fits (fitsInto_layout_after.not.mpr fits)]
      exact inductionHypothesis seen wholeBefore

/-- After any history, an update leaves the value of a field that it covers fresh exactly if it is
the first to cover the field, or brings other bytes than those in the buffer, or finds the value
fresh. This is so for a field of one byte, and for every other one that was not cut once it had been
covered. -/
theorem isFresh_parse_iff {update : Bytes} {offset : Nat} {outcome : Update}
    (parsed : (after layout history).parse update offset = .ok outcome)
    (declared : layout.fields[index]? = some field)
    (covered : field.liesWithin offset update.length = true) :
    (outcome.message.IsFresh index field ↔
      ¬ HasCovered layout history field ∨
        field.differs update offset (after layout history).buffer = true ∨
        (after layout history).IsFresh index field) ∧
    (field.length = 1 ∨ ¬ CutOnceCovered layout history field →
      outcome.message.IsFresh index field) := by
  let window : Window := ⟨update, offset⟩
  have fits : window.FitsInto (after layout history).layout := (parse_eq_ok_iff.mp parsed).1
  have covers : window.covers field = true := covered
  have exactly := isFresh_absorb_of_covers fits (declared_after history declared) covers
  rw [absorb_of_parse parsed, unseen_after_iff declared] at exactly
  refine ⟨exactly, fun uncut => exactly.mpr ?_⟩
  have whole : ¬ CutOnceCovered layout history field :=
    uncut.elim not_cutOnceCovered_of_length_eq_one id
  by_cases seen : HasCovered layout history field
  · exact .inr (.inr (isFresh_after declared seen whole))
  · exact .inl seen

end

/-! ## A stale value -/

def operationTime : MessageLayout where
  row := .readOnly 0x14 "UbaOperationTime" 3 KnownMessages.ubaOperationTimeFields
  index := _
  accepted := rfl

def operationDuration : Field :=
  Field.integer 0 3 "duration" "Operation duration" |>.withUnit .minute

/-- The time arrives in full, then its last byte on its own. -/
def cutHistory : List Window := [⟨[0, 0, 0], 0⟩, ⟨[1], 2⟩]

/-- The cut has left a stale value; a covering update with other bytes makes it fresh. -/
theorem isFresh_parse_of_other_bytes :
    ¬ (after operationTime cutHistory).IsFresh 0 operationDuration ∧
      operationTime.fields[0]? = some operationDuration ∧
      operationDuration.liesWithin 0 [0, 0, 2].length = true ∧
      ∃ outcome, (after operationTime cutHistory).parse [0, 0, 2] 0 = .ok outcome ∧
        outcome.message.IsFresh 0 operationDuration := by
  have parsed := parse_eq_ok_iff.mpr
    ⟨show 0 + [0, 0, 2].length ≤ (after operationTime cutHistory).layout.length by decide, rfl⟩
  have declared : operationTime.fields[0]? = some operationDuration := rfl
  have covered : operationDuration.liesWithin 0 [0, 0, 2].length = true := by decide
  refine ⟨by decide, declared, covered, _, parsed, ?_⟩
  exact (isFresh_parse_iff parsed declared covered).1.mpr (.inr (.inl (by decide)))

/-- A covering update that repeats the bytes that a cut has left keeps the stale value: the buffer
says one minute, and the value still says zero. -/
theorem not_isFresh_parse :
    ¬ ∀ (layout : MessageLayout) (history : List Window) (update : Bytes) (offset index : Nat)
        (field : Field) (outcome : Update),
        (after layout history).parse update offset = .ok outcome →
        layout.fields[index]? = some field →
        field.liesWithin offset update.length = true → outcome.message.IsFresh index field := by
  intro always
  have parsed := parse_eq_ok_iff.mpr
    ⟨show 0 + [0, 0, 1].length ≤ (after operationTime cutHistory).layout.length by decide, rfl⟩
  have declared : operationTime.fields[0]? = some operationDuration := rfl
  have fresh := always operationTime cutHistory [0, 0, 1] 0 0 operationDuration _ parsed declared
    (by decide)
  exact absurd fresh (by decide)

end Message

end HeatingBus
