import HeatingBus.Queue.Broker

/-!
# Operations on queues

What can be done to the queues of a broker, and what remains true of them. Every open queue has room
for a frame, a name stands for a queue that was created under it, and whatever is done, a handle
stands for the queue that it was given out for.
-/

namespace HeatingBus

/-! ## Queues -/

namespace Queue

variable {queue after : Queue} {frame : Bytes}

theorem eq_of_accepted (accepted : queue.send frame = .accepted after) :
    after = { queue with frames := queue.frames ++ [frame] } := by
  rw [send] at accepted
  split at accepted
  · cases accepted
  · split at accepted
    · cases accepted
    · split at accepted
      · cases accepted
      · cases accepted
        rfl

theorem closed_of_accepted (accepted : queue.send frame = .accepted after) :
    queue.closed = false := by
  rw [send] at accepted
  split at accepted
  · cases accepted
  · split at accepted
    · cases accepted
    · rename_i running
      exact Bool.eq_false_iff.mpr running

theorem eq_of_received {received : Option Bytes} (taken : queue.receive = .ok (received, after)) :
    ∃ frames, after = { queue with frames } := by
  rw [receive] at taken
  split at taken
  · cases taken
  · split at taken <;> cases taken <;> exact ⟨_, rfl⟩

/-- Where there was nothing to receive, nothing has changed. -/
theorem eq_of_empty (empty : queue.receive = .ok (none, after)) :
    after = queue := by
  rw [receive] at empty
  split at empty
  · cases empty
  · split at empty <;> cases empty
    rfl

theorem running_of_isFull {full : Bool} (known : queue.isFull = .ok full) :
    queue.closed = false := by
  rw [isFull, length, checkOpen] at known
  split at known
  · cases known
  · rename_i running
    exact Bool.eq_false_iff.mpr running

end Queue

namespace Broker

variable {broker : Broker} {handle other : QueueHandle} {queue : Queue} {name : String}

/-- A handle that was never given out stands for a closed queue. -/
theorem lt_of_open (running : (broker.queue handle).closed = false) :
    handle < broker.queues.length := by
  refine Nat.lt_of_not_le fun beyond => ?_
  have missing : broker.queue handle = missingQueue := by simp [Broker.queue, beyond]
  rw [missing] at running
  cases running

theorem queue_update_self (given : handle < broker.queues.length) :
    (broker.update handle queue).queue handle = queue := by
  simp [Broker.queue, update, given]

theorem queue_update_of_ne (different : other ≠ handle) :
    (broker.update handle queue).queue other = broker.queue other := by
  simp [Broker.queue, update, List.getElem?_set_ne different.symm]

theorem update_update (broker : Broker) (handle : QueueHandle) (queue later : Queue) :
    (broker.update handle queue).update handle later = broker.update handle later := by
  rw [update, update, List.set_set]
  rfl

theorem update_queue (broker : Broker) (handle : QueueHandle) :
    broker.update handle (broker.queue handle) = broker := by
  by_cases given : handle < broker.queues.length
  · have same : broker.queue handle = broker.queues[handle] := by simp [Broker.queue, given]
    rw [update, same, List.set_getElem_self]
  · rw [update, List.set_eq_of_length_le (Nat.le_of_not_lt given)]

/-! ## Operations -/

inductive Operation where
  | create (name : String) (capacity maxSize : Nat)
  | openQueue (name : String)
  | unlink (name : String)
  | close (name : String)
  | failNextOpens (count : Nat)
  | send (handle : QueueHandle) (frame : Bytes)
  | receive (handle : QueueHandle)
  | shut (handle : QueueHandle)

/-- The broker after an operation. Nothing changes as long as a sender or a receiver has to wait. -/
def operate (broker : Broker) : Operation → Broker
  | .create name capacity maxSize => (broker.create name capacity maxSize).2
  | .openQueue name => (broker.openQueue name).2
  | .unlink name => broker.unlink name
  | .close name => broker.close name
  | .failNextOpens count => broker.failNextOpens count
  | .send handle frame =>
    match (broker.queue handle).send frame with
    | .accepted queue => broker.update handle queue
    | .mustWait | .refused _ => broker
  | .receive handle =>
    match (broker.queue handle).receive with
    | .ok (_, queue) => broker.update handle queue
    | .error _ => broker
  | .shut handle => broker.shut handle

def operateAll (broker : Broker) (operations : List Operation) : Broker :=
  operations.foldl operate broker

/-! ## Soundness -/

structure IsNamed (broker : Broker) (handle : QueueHandle) (name : String) : Prop where
  given : handle < broker.queues.length
  name : (broker.queue handle).name = name

/-- Whether every queue has room for a frame, and every name stands for a queue that was created
under it. -/
structure IsSound (broker : Broker) : Prop where
  roomy : ∀ queue ∈ broker.queues, 0 < queue.capacity
  named : ∀ entry ∈ broker.names, broker.IsNamed entry.2 entry.1

/-- Whether one broker can have become of another one: the handles stand for queues of the same
names, and it is sound if the other one was. -/
structure Evolves (before after : Broker) : Prop where
  keeps : ∀ handle name, before.IsNamed handle name → after.IsNamed handle name
  sound : before.IsSound → after.IsSound

section
variable {before between after : Broker}

theorem isSound_empty : empty.IsSound :=
  ⟨fun _ none => absurd none List.not_mem_nil, fun _ none => absurd none List.not_mem_nil⟩

theorem IsSound.isNamed (sound : broker.IsSound) (found : broker.handle? name = some handle) :
    broker.IsNamed handle name := by
  obtain ⟨entry, first, rfl⟩ := Option.map_eq_some_iff.mp found
  have own : entry.1 = name := by simpa using List.find?_some first
  exact own ▸ sound.named entry (List.mem_of_find?_eq_some first)

theorem IsNamed.ne {nameToo : String} (named : broker.IsNamed handle name)
    (namedToo : broker.IsNamed other nameToo) (different : name ≠ nameToo) : handle ≠ other := by
  rintro rfl
  exact different (named.name.symm.trans namedToo.name)

theorem Evolves.refl (broker : Broker) : broker.Evolves broker :=
  ⟨fun _ _ named => named, fun sound => sound⟩

theorem Evolves.trans (first : before.Evolves between) (second : between.Evolves after) :
    before.Evolves after :=
  ⟨fun handle name named => second.keeps handle name (first.keeps handle name named),
    fun sound => second.sound (first.sound sound)⟩

/-- Names may be given up as long as the queues remain. -/
theorem evolves_of_queues (same : after.queues = before.queues)
    (fewer : ∀ entry ∈ after.names, entry ∈ before.names) : before.Evolves after := by
  have keeps : ∀ handle name, before.IsNamed handle name → after.IsNamed handle name := by
    rintro handle name ⟨given, named⟩
    exact ⟨same ▸ given, by rw [Broker.queue, same]; exact named⟩
  refine ⟨keeps, fun sound => ⟨same ▸ sound.roomy, fun entry listed => ?_⟩⟩
  exact keeps entry.2 entry.1 (sound.named entry (fewer entry listed))

theorem evolves_update (name : queue.name = (broker.queue handle).name)
    (capacity : queue.capacity = (broker.queue handle).capacity) :
    broker.Evolves (broker.update handle queue) := by
  have keeps : ∀ other name, broker.IsNamed other name →
      (broker.update handle queue).IsNamed other name := by
    rintro other otherName ⟨given, named⟩
    refine ⟨by rwa [update, List.length_set], ?_⟩
    by_cases own : other = handle
    · subst own
      rw [queue_update_self given, name, named]
    · rw [queue_update_of_ne own, named]
  refine ⟨keeps, fun sound => ⟨fun member listed => ?_, fun entry listed => ?_⟩⟩
  -- A handle beyond the queues stands for none of them, and nothing is updated then.
  · by_cases given : handle < broker.queues.length
    · rcases List.mem_or_eq_of_mem_set listed with old | rfl
      · exact sound.roomy member old
      · rw [capacity]
        exact sound.roomy _ (by simp [Broker.queue, given])
    · rw [update, List.set_eq_of_length_le (Nat.le_of_not_lt given)] at listed
      exact sound.roomy member listed
  · exact keeps entry.2 entry.1 (sound.named entry listed)

theorem evolves_create (broker : Broker) (name : String) (capacity maxSize : Nat) :
    broker.Evolves (broker.create name capacity maxSize).2 := by
  rw [create]
  split
  · exact .refl broker
  · have keeps : ∀ handle other, broker.IsNamed handle other →
        IsNamed { broker with
          queues := broker.queues ++ [.new name capacity maxSize]
          names := broker.names ++ [(name, broker.queues.length)] } handle other := by
      rintro handle other ⟨given, named⟩
      refine ⟨Nat.lt_of_lt_of_le given (by simp), ?_⟩
      rw [← named]
      simp [Broker.queue, List.getElem?_append_left given]
    refine ⟨keeps, fun sound => ⟨fun queue listed => ?_, fun entry listed => ?_⟩⟩
    · rcases List.mem_append.mp listed with old | new
      · exact sound.roomy queue old
      · rw [List.mem_singleton.mp new]
        exact Nat.le_max_right capacity 1
    · rcases List.mem_append.mp listed with old | new
      · exact keeps entry.2 entry.1 (sound.named entry old)
      · rw [List.mem_singleton.mp new]
        exact ⟨by simp [add], by simp [Broker.queue, add, Queue.new]⟩

theorem evolves_shut (broker : Broker) (handle : QueueHandle) :
    broker.Evolves (broker.shut handle) :=
  evolves_update rfl rfl

theorem evolves_unlink (broker : Broker) (name : String) : broker.Evolves (broker.unlink name) :=
  evolves_of_queues rfl fun _ listed => (List.mem_filter.mp listed).1

theorem evolves_openQueue (broker : Broker) (name : String) :
    broker.Evolves (broker.openQueue name).2 := by
  refine evolves_of_queues ?_ fun entry listed => ?_
  · simp only [openQueue]
    split
    · rfl
    · split <;> rfl
  · simp only [openQueue] at listed
    split at listed
    · exact listed
    · split at listed <;> exact listed

theorem evolves_operate (broker : Broker) (operation : Operation) :
    broker.Evolves (broker.operate operation) := by
  cases operation with
  | create name capacity maxSize => exact broker.evolves_create name capacity maxSize
  | openQueue name => exact broker.evolves_openQueue name
  | unlink name => exact broker.evolves_unlink name
  | close name =>
    simp only [operate, close]
    split
    · exact (broker.evolves_shut _).trans (evolves_unlink _ name)
    · exact .refl broker
  | failNextOpens count => exact evolves_of_queues rfl fun _ listed => listed
  | send handle frame =>
    simp only [operate]
    split
    · rename_i accepted
      rw [Queue.eq_of_accepted accepted]
      exact evolves_update rfl rfl
    · exact .refl broker
    · exact .refl broker
  | receive handle =>
    simp only [operate]
    split
    · rename_i taken
      obtain ⟨frames, rfl⟩ := Queue.eq_of_received taken
      exact evolves_update rfl rfl
    · exact .refl broker
  | shut handle => exact broker.evolves_shut handle

/-- What others do to the queues leaves a broker sound, and every handle with its queue. -/
theorem evolves_operateAll (broker : Broker) (operations : List Operation) :
    broker.Evolves (broker.operateAll operations) := by
  induction operations generalizing broker with
  | nil => exact .refl broker
  | cons operation operations inductionHypothesis =>
    exact (broker.evolves_operate operation).trans (inductionHypothesis (broker.operate operation))

end

end Broker

end HeatingBus
