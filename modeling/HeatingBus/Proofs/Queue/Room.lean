import HeatingBus.Proofs.Queue.Operations

/-!
# Room in a queue

A queue takes some frames if it accepts them one after the other, and it has them all behind its own
frames then. The order of the frames is of no importance to whether they are taken.
-/

namespace HeatingBus

namespace Queue

def TakesAll (queue : Queue) : List Bytes → Prop
  | [] => True
  | frame :: rest => ∃ after, queue.send frame = .accepted after ∧ after.TakesAll rest

def extend (queue : Queue) (frames : List Bytes) : Queue :=
  { queue with frames := queue.frames ++ frames }

section
variable {queue : Queue} {frame : Bytes} {frames others : List Bytes}

theorem extend_nil (queue : Queue) : queue.extend [] = queue := by
  rw [extend, List.append_nil]

theorem extend_extend (queue : Queue) (frames others : List Bytes) :
    (queue.extend frames).extend others = queue.extend (frames ++ others) := by
  simp [extend]

/-- A frame is accepted by an open queue that has a place for it and allows its length. -/
theorem send_eq_accepted_iff {after : Queue} :
    queue.send frame = .accepted after ↔
      (frame.length ≤ queue.maxSize ∧ queue.closed = false ∧
        queue.frames.length < queue.capacity) ∧ after = queue.extend [frame] := by
  constructor
  · intro accepted
    refine ⟨?_, eq_of_accepted accepted⟩
    rw [send] at accepted
    split at accepted
    · cases accepted
    · split at accepted
      · cases accepted
      · rename_i running
        split at accepted
        · cases accepted
        · exact ⟨by omega, Bool.eq_false_iff.mpr running, by omega⟩
  · rintro ⟨⟨short, running, room⟩, rfl⟩
    rw [send, if_neg (by omega), if_neg (by simp [running]), if_neg (by omega)]
    rfl

theorem takesAll_cons_iff :
    queue.TakesAll (frame :: frames) ↔
      (frame.length ≤ queue.maxSize ∧ queue.closed = false ∧
        queue.frames.length < queue.capacity) ∧ (queue.extend [frame]).TakesAll frames := by
  simp only [TakesAll, send_eq_accepted_iff]
  constructor
  · rintro ⟨after, ⟨accepts, rfl⟩, rest⟩
    exact ⟨accepts, rest⟩
  · rintro ⟨accepts, rest⟩
    exact ⟨_, ⟨accepts, rfl⟩, rest⟩

theorem takesAll_append_iff :
    queue.TakesAll (frames ++ others) ↔
      queue.TakesAll frames ∧ (queue.extend frames).TakesAll others := by
  induction frames generalizing queue with
  | nil => simp [TakesAll, extend_nil]
  | cons frame rest inductionHypothesis =>
    rw [List.cons_append, takesAll_cons_iff, takesAll_cons_iff, inductionHypothesis,
      extend_extend, List.singleton_append]
    simp only [and_assoc]

/-- Frames are taken all together if the queue is open, allows their lengths, and has a place for
each of them. -/
theorem takesAll_iff :
    queue.TakesAll frames ↔
      frames ≠ [] → (∀ frame ∈ frames, frame.length ≤ queue.maxSize) ∧ queue.closed = false ∧
        queue.frames.length + frames.length ≤ queue.capacity := by
  induction frames generalizing queue with
  | nil => simp [TakesAll]
  | cons frame rest inductionHypothesis =>
    rw [takesAll_cons_iff, inductionHypothesis]
    simp only [extend, List.length_append, List.length_cons, List.length_nil,
      List.forall_mem_cons, ne_eq, reduceCtorEq, not_false_eq_true, true_imp_iff]
    -- The last frame leaves no condition on those after it.
    cases rest with
    | nil =>
      rw [Nat.lt_iff_add_one_le]
      simp
    | cons next others =>
      simp only [reduceCtorEq, not_false_eq_true, true_imp_iff, List.length_cons]
      constructor
      · rintro ⟨⟨short, running, _⟩, shorts, _, room⟩
        exact ⟨⟨short, shorts⟩, running, by omega⟩
      · rintro ⟨⟨short, shorts⟩, running, room⟩
        exact ⟨⟨short, running, by omega⟩, shorts, running, by omega⟩

theorem TakesAll.comm (takes : queue.TakesAll (frames ++ others)) :
    queue.TakesAll (others ++ frames) := by
  rw [takesAll_iff] at takes ⊢
  intro some
  have ⟨shorts, running, room⟩ := takes fun none => some (by simp_all)
  refine ⟨fun frame member => shorts frame ?_, running, ?_⟩
  · rw [List.mem_append, or_comm, ← List.mem_append]
    exact member
  · rw [List.length_append] at room ⊢
    omega

end

end Queue

end HeatingBus
