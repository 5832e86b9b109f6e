import HeatingBus.Proofs.Message.History

/-!
# Last bytes

The buffer of a message holds, at every place, the last byte that an update has brought to it. A
place that no update has brought a byte to holds zero, which is then no byte that was ever received.
-/

namespace HeatingBus

def Window.byteAt? (window : Window) (position : Nat) : Option UInt8 :=
  if window.offset ≤ position then window.bytes[position - window.offset]? else none

/-- The last byte that some windows bring to a place, if any of them brings one. -/
def lastByte? (history : List Window) (position : Nat) : Option UInt8 :=
  history.reverse.findSome? (·.byteAt? position)

section
variable {window : Window} {history : List Window} {position : Nat} {layout : MessageLayout}

theorem Window.within_of_byteAt? {byte : UInt8} (brought : window.byteAt? position = some byte) :
    window.offset ≤ position ∧ position < window.offset + window.bytes.length := by
  unfold byteAt? at brought
  split at brought
  · rename_i starts
    have inside := (List.getElem?_eq_some_iff.mp brought).1
    omega
  · cases brought

/-- A window that covers a field brings a byte to every place of it. -/
theorem Window.exists_byteAt?_of_covers {field : Field} (covered : window.covers field = true)
    (starts : field.position ≤ position) (ends : position < field.finish) :
    ∃ byte, window.byteAt? position = some byte := by
  obtain ⟨before, after⟩ := Field.liesWithin_iff.mp covered
  rw [Field.finish] at ends
  rw [byteAt?, if_pos (by omega)]
  exact ⟨_, List.getElem?_eq_getElem (by omega)⟩

theorem lastByte?_concat :
    lastByte? (history ++ [window]) position =
      (window.byteAt? position).or (lastByte? history position) := by
  rw [lastByte?, List.reverse_concat, List.findSome?_cons, lastByte?]
  cases window.byteAt? position <;> rfl

namespace Message

theorem getElem?_buffer_absorb {message : Message} (fits : window.FitsInto message.layout) :
    (message.absorb window).buffer[position]? =
      (window.byteAt? position).or message.buffer[position]? := by
  have room := room_of_fits fits
  rw [buffer_absorb fits, getElem?_overwrite room, Window.byteAt?]
  by_cases before : window.offset ≤ position
  · rw [if_pos before]
    by_cases inside : position < window.offset + window.bytes.length
    · have bound : position - window.offset < window.bytes.length := by omega
      rw [if_pos ⟨before, inside⟩, List.getElem?_eq_getElem bound, Option.some_or]
    · have beyond : window.bytes.length ≤ position - window.offset := by omega
      rw [if_neg fun both => inside both.2, List.getElem?_eq_none beyond, Option.none_or]
  · rw [if_neg before, if_neg fun both => before both.1, Option.none_or]

/-- The byte at a place after some updates that fit. -/
theorem getElem?_buffer_after (fits : ∀ window ∈ history, window.FitsInto layout)
    (inside : position < layout.length) :
    (after layout history).buffer[position]? = some ((lastByte? history position).getD 0) := by
  induction history using List.reverseRecOn with
  | nil =>
    rw [after_nil, new, List.getElem?_replicate_of_lt inside]
    rfl
  | append_singleton history window inductionHypothesis =>
    have last : window.FitsInto layout := fits window (by simp)
    have before := inductionHypothesis fun other member => fits other (by simp [member])
    rw [after_concat, getElem?_buffer_absorb (fitsInto_layout_after.mpr last), before,
      lastByte?_concat]
    cases window.byteAt? position <;> rfl

end Message

end

end HeatingBus
