import HeatingBus.Proofs.Queue.Room

/-!
# Traffic

What goes through the queues of a broker while operations of all kinds are made on them. Whatever is
done, each queue stays within its measures and hands out the frames that were sent to it, each of
them once and in their order. A closed queue refuses everything and keeps what it holds. A queue
that has lost its name goes on for those who have opened it, and a queue that is created under the
name later is another one.
-/

namespace HeatingBus

/-! ## Queues -/

/-- Whether a queue has room for a frame at least, and keeps to its measures. -/
structure Queue.IsBounded (queue : Queue) : Prop where
  roomy : 0 < queue.capacity
  filled : queue.frames.length ≤ queue.capacity
  short : ∀ frame ∈ queue.frames, frame.length ≤ queue.maxSize

theorem Queue.isBounded_new (name : String) (capacity maxSize : Nat) :
    (Queue.new name capacity maxSize).IsBounded :=
  ⟨Nat.le_max_right capacity 1, Nat.zero_le _, fun _ none => absurd none List.not_mem_nil⟩

namespace Broker

/-! ## Replies -/

inductive Reply where
  | done
  | handle (result : Except BusError QueueHandle)
  | sent
  /-- The queue is full, and nothing has been sent yet. -/
  | mustWait
  | received (frame : Option Bytes)
  | refused (error : BusError)

def reply (broker : Broker) : Operation → Reply
  | .create name capacity maxSize => .handle (.ok (broker.create name capacity maxSize).1)
  | .openQueue name => .handle (broker.openQueue name).1
  | .unlink _ | .close _ | .failNextOpens _ | .shut _ => .done
  | .send handle frame =>
    match (broker.queue handle).send frame with
    | .accepted _ => .sent
    | .mustWait => .mustWait
    | .refused error => .refused error
  | .receive handle =>
    match (broker.queue handle).receive with
    | .ok (frame, _) => .received frame
    | .error error => .refused error

def record (broker : Broker) : List Operation → List (Operation × Reply)
  | [] => []
  | operation :: rest =>
    (operation, broker.reply operation) :: (broker.operate operation).record rest

def sentBy? (handle : QueueHandle) : Operation × Reply → Option Bytes
  | (.send own frame, .sent) => if own = handle then some frame else none
  | _ => none

def receivedBy? (handle : QueueHandle) : Operation × Reply → Option Bytes
  | (.receive own, .received frame) => if own = handle then frame else none
  | _ => none

def sentTo (handle : QueueHandle) (entries : List (Operation × Reply)) : List Bytes :=
  entries.filterMap (sentBy? handle)

def receivedFrom (handle : QueueHandle) (entries : List (Operation × Reply)) : List Bytes :=
  entries.filterMap (receivedBy? handle)

/-! ## One operation -/

inductive Effect (broker : Broker) (handle : QueueHandle) : Operation → Queue → Prop where
  | leaves (operation : Operation)
      (unsent : sentBy? handle (operation, broker.reply operation) = none)
      (unreceived : receivedBy? handle (operation, broker.reply operation) = none) :
      Effect broker handle operation (broker.queue handle)
  | puts (frame : Bytes) (short : frame.length ≤ (broker.queue handle).maxSize)
      (running : (broker.queue handle).closed = false)
      (room : (broker.queue handle).frames.length < (broker.queue handle).capacity)
      (sent : broker.reply (.send handle frame) = .sent) :
      Effect broker handle (.send handle frame) ((broker.queue handle).extend [frame])
  | takes (frame : Bytes) (rest : List Bytes) (running : (broker.queue handle).closed = false)
      (waiting : (broker.queue handle).frames = frame :: rest)
      (received : broker.reply (.receive handle) = .received (some frame)) :
      Effect broker handle (.receive handle) { broker.queue handle with frames := rest }
  | shuts (operation : Operation)
      (closes : operation = .shut handle ∨
        ∃ name, operation = .close name ∧ broker.handle? name = some handle) :
      Effect broker handle operation (broker.queue handle).close
  | creates (name : String) (capacity maxSize : Nat) (free : broker.handle? name = none)
      (next : handle = broker.queues.length) :
      Effect broker handle (.create name capacity maxSize) (.new name capacity maxSize)

section
variable {broker after : Broker} {handle other own : QueueHandle} {operation : Operation}
  {queue : Queue} {name : String} {frame : Bytes}

theorem queue_congr (same : after.queues = broker.queues) (handle : QueueHandle) :
    after.queue handle = broker.queue handle := by
  rw [Broker.queue, same, Broker.queue]

/-- A handle that was never given out stands for no queue of the broker, so nothing is written to
it. -/
theorem queue_update_of_missing (missing : ¬ handle < broker.queues.length) (other : QueueHandle) :
    (broker.update handle queue).queue other = broker.queue other := by
  refine queue_congr ?_ other
  rw [update, List.set_eq_of_length_le (Nat.le_of_not_lt missing)]

theorem queue_missing (missing : ¬ handle < broker.queues.length) :
    broker.queue handle = missingQueue := by
  simp [Broker.queue, Nat.le_of_not_lt missing]

theorem create_of_named {capacity maxSize : Nat} (named : broker.handle? name = some own) :
    broker.create name capacity maxSize = (own, broker) := by
  rw [create, named]

/-- A queue that is created under a free name has a handle that was never given out. -/
theorem create_of_free {capacity maxSize : Nat} (free : broker.handle? name = none) :
    (broker.create name capacity maxSize).1 = broker.queues.length := by
  rw [create, free]
  rfl

theorem queues_create {capacity maxSize : Nat} (free : broker.handle? name = none) :
    (broker.create name capacity maxSize).2.queues =
      broker.queues ++ [.new name capacity maxSize] := by
  rw [create, free]
  rfl

theorem queue_create_self {capacity maxSize : Nat} (free : broker.handle? name = none) :
    (broker.create name capacity maxSize).2.queue (broker.create name capacity maxSize).1 =
      .new name capacity maxSize := by
  rw [Broker.queue, queues_create free, create_of_free free]
  simp

theorem queue_create_of_ne {capacity maxSize : Nat} (free : broker.handle? name = none)
    (different : other ≠ (broker.create name capacity maxSize).1) :
    (broker.create name capacity maxSize).2.queue other = broker.queue other := by
  rw [create_of_free free] at different
  rw [Broker.queue, queues_create free, Broker.queue]
  rcases Nat.lt_or_gt_of_ne different with given | beyond
  · simp [List.getElem?_append_left given]
  · simp [List.getElem?_append_right (Nat.le_of_lt beyond), Nat.le_of_lt beyond,
      Nat.sub_ne_zero_of_lt beyond]

theorem Effect.of_same (unsent : sentBy? handle (operation, broker.reply operation) = none)
    (unreceived : receivedBy? handle (operation, broker.reply operation) = none)
    (same : queue = broker.queue handle) : broker.Effect handle operation queue := by
  rw [same]
  exact .leaves operation unsent unreceived

theorem effect_shut (closes : operation = .shut own ∨
    ∃ name, operation = .close name ∧ broker.handle? name = some own) :
    broker.Effect handle operation ((broker.shut own).queue handle) := by
  have silent : broker.reply operation = .done := by
    rcases closes with rfl | ⟨name, rfl, _⟩ <;> rfl
  have unsent : sentBy? handle (operation, broker.reply operation) = none := by
    rw [silent]
    rcases closes with rfl | ⟨name, rfl, _⟩ <;> rfl
  have unreceived : receivedBy? handle (operation, broker.reply operation) = none := by
    rw [silent]
    rcases closes with rfl | ⟨name, rfl, _⟩ <;> rfl
  by_cases given : own < broker.queues.length
  · by_cases same : handle = own
    · subst same
      rw [shut, queue_update_self given]
      exact .shuts operation closes
    · exact .of_same unsent unreceived (queue_update_of_ne same)
  · exact .of_same unsent unreceived (queue_update_of_missing given handle)

theorem queue_operate_of_closes (given : handle < broker.queues.length)
    (closes : operation = .shut handle ∨
      ∃ name, operation = .close name ∧ broker.handle? name = some handle) :
    (broker.operate operation).queue handle = (broker.queue handle).close := by
  have shuts : (broker.operate operation).queue handle = (broker.shut handle).queue handle := by
    rcases closes with rfl | ⟨name, rfl, found⟩
    · rfl
    · simp only [operate, close, found]
      rfl
  rw [shuts, shut, queue_update_self given]

theorem effect_create (broker : Broker) (handle : QueueHandle) (name : String)
    (capacity maxSize : Nat) :
    broker.Effect handle (.create name capacity maxSize)
      ((broker.create name capacity maxSize).2.queue handle) := by
  cases named : broker.handle? name with
  | some own => exact .of_same rfl rfl (by rw [create_of_named named])
  | none =>
    by_cases next : handle = (broker.create name capacity maxSize).1
    · rw [next, queue_create_self named]
      exact next ▸ .creates name capacity maxSize named (next.trans (create_of_free named))
    · exact .of_same rfl rfl (queue_create_of_ne named next)

theorem effect_send (broker : Broker) (handle own : QueueHandle) (frame : Bytes) :
    broker.Effect handle (.send own frame) ((broker.operate (.send own frame)).queue handle) := by
  cases outcome : (broker.queue own).send frame with
  | accepted after =>
    obtain ⟨⟨short, running, room⟩, rfl⟩ := Queue.send_eq_accepted_iff.mp outcome
    have sent : broker.reply (.send own frame) = .sent := by simp only [reply, outcome]
    simp only [operate, outcome]
    by_cases same : handle = own
    · subst same
      rw [queue_update_self (lt_of_open running)]
      exact .puts frame short running room sent
    · refine .of_same ?_ rfl (queue_update_of_ne same)
      rw [sent]
      exact if_neg (Ne.symm same)
  | mustWait =>
    simp only [operate, outcome]
    exact .leaves _ (by simp only [reply, outcome, sentBy?]) rfl
  | refused error =>
    simp only [operate, outcome]
    exact .leaves _ (by simp only [reply, outcome, sentBy?]) rfl

theorem effect_receive (broker : Broker) (handle own : QueueHandle) :
    broker.Effect handle (.receive own) ((broker.operate (.receive own)).queue handle) := by
  cases outcome : (broker.queue own).receive with
  | error error =>
    simp only [operate, outcome]
    exact .leaves _ rfl (by simp only [reply, outcome, receivedBy?])
  | ok result =>
    obtain ⟨received, after⟩ := result
    have answered : broker.reply (.receive own) = .received received := by
      simp only [reply, outcome]
    simp only [operate, outcome]
    by_cases same : handle = own
    · subst same
      rw [Queue.receive] at outcome
      split at outcome
      · cases outcome
      · rename_i running
        have running := Bool.eq_false_iff.mpr running
        rw [queue_update_self (lt_of_open running)]
        split at outcome <;> cases outcome
        · exact .leaves _ rfl (by simp [answered, receivedBy?])
        · rename_i frame rest waiting
          exact .takes frame rest running waiting answered
    · refine .of_same rfl ?_ (queue_update_of_ne same)
      rw [answered]
      exact if_neg (Ne.symm same)

/-- All that an operation can do to a queue. -/
theorem effect_operate (broker : Broker) (handle : QueueHandle) (operation : Operation) :
    broker.Effect handle operation ((broker.operate operation).queue handle) := by
  cases operation with
  | create name capacity maxSize => exact broker.effect_create handle name capacity maxSize
  | openQueue name =>
    refine .of_same rfl rfl (queue_congr ?_ handle)
    simp only [operate, openQueue]
    split
    · rfl
    · split <;> rfl
  | unlink name => exact .leaves _ rfl rfl
  | close name =>
    simp only [operate, close]
    cases found : broker.handle? name with
    | none => exact .leaves _ rfl rfl
    | some own => exact effect_shut (.inr ⟨name, rfl, found⟩)
  | failNextOpens count => exact .leaves _ rfl rfl
  | send own frame => exact broker.effect_send handle own frame
  | receive own => exact broker.effect_receive handle own
  | shut own => exact effect_shut (.inl rfl)

/-! ## What an operation keeps -/

theorem given_operate (given : handle < broker.queues.length) (operation : Operation) :
    handle < (broker.operate operation).queues.length :=
  ((broker.evolves_operate operation).keeps handle _ ⟨given, rfl⟩).given

/-- What an operation receives and leaves is what it has found and sent. -/
theorem Effect.flow (effect : broker.Effect handle operation queue) :
    (receivedBy? handle (operation, broker.reply operation)).toList ++ queue.frames =
      (broker.queue handle).frames ++
        (sentBy? handle (operation, broker.reply operation)).toList := by
  cases effect with
  | leaves _ unsent unreceived => rw [unsent, unreceived, Option.toList_none, List.append_nil]; rfl
  | puts frame _ _ _ sent =>
    rw [sent, show sentBy? handle (.send handle frame, .sent) = some frame from if_pos rfl]
    rfl
  | takes frame rest _ waiting received =>
    rw [received, waiting,
      show receivedBy? handle (.receive handle, .received (some frame)) = some frame from if_pos rfl]
    exact (List.append_nil _).symm
  | shuts _ closes =>
    rcases closes with rfl | ⟨name, rfl, _⟩ <;> exact (List.append_nil _).symm
  | creates name capacity maxSize _ next =>
    rw [queue_missing (by rw [next]; exact Nat.lt_irrefl _)]
    rfl

theorem Effect.isBounded (effect : broker.Effect handle operation queue)
    (bounded : (broker.queue handle).IsBounded) : queue.IsBounded := by
  obtain ⟨roomy, filled, short⟩ := bounded
  cases effect with
  | leaves => exact ⟨roomy, filled, short⟩
  | puts frame fits _ room =>
    refine ⟨roomy, ?_, fun member listed => ?_⟩
    · rw [Queue.extend, List.length_append]
      exact room
    · rcases List.mem_append.mp listed with old | new
      · exact short member old
      · rw [List.mem_singleton.mp new]
        exact fits
  | takes frame rest _ waiting =>
    rw [waiting] at filled short
    exact ⟨roomy, Nat.le_of_succ_le filled,
      fun member listed => short member (List.mem_cons_of_mem frame listed)⟩
  | shuts => exact ⟨roomy, filled, short⟩
  | creates name capacity maxSize => exact Queue.isBounded_new name capacity maxSize

theorem Effect.measures (effect : broker.Effect handle operation queue)
    (given : handle < broker.queues.length) :
    queue.capacity = (broker.queue handle).capacity ∧
      queue.maxSize = (broker.queue handle).maxSize := by
  cases effect with
  | leaves | puts | takes | shuts => exact ⟨rfl, rfl⟩
  | creates _ _ _ _ next => exact absurd given (by rw [next]; exact Nat.lt_irrefl _)

/-- Nothing becomes of a queue once it is closed. -/
theorem Effect.eq_of_closed (effect : broker.Effect handle operation queue)
    (given : handle < broker.queues.length) (closed : (broker.queue handle).closed = true) :
    queue = broker.queue handle := by
  cases effect with
  | leaves => rfl
  | puts _ _ running =>
    rw [closed] at running
    cases running
  | takes _ _ running =>
    rw [closed] at running
    cases running
  | shuts => rw [Queue.close, ← closed]
  | creates _ _ _ _ next => exact absurd given (by rw [next]; exact Nat.lt_irrefl _)

def IsNameless (broker : Broker) (handle : QueueHandle) : Prop :=
  ∀ entry ∈ broker.names, entry.2 ≠ handle

theorem IsNameless.handle?_ne (nameless : broker.IsNameless handle) (name : String) :
    broker.handle? name ≠ some handle := by
  intro found
  obtain ⟨entry, first, own⟩ := Option.map_eq_some_iff.mp found
  exact nameless entry (List.mem_of_find?_eq_some first) own

/-- A queue stays open as long as it has no name and is not closed by one of those who know it. -/
theorem Effect.running (effect : broker.Effect handle operation queue)
    (nameless : broker.IsNameless handle) (spared : operation ≠ .shut handle)
    (running : (broker.queue handle).closed = false) : queue.closed = false := by
  cases effect with
  | leaves | puts | takes => exact running
  | shuts _ closes =>
    rcases closes with shut | ⟨name, _, found⟩
    · exact absurd shut spared
    · exact absurd found (nameless.handle?_ne name)
  | creates => rfl

/-- Once a name is given up, none stands for its queue any more. -/
theorem isNameless_unlink (sound : broker.IsSound) (found : broker.handle? name = some handle) :
    (broker.unlink name).IsNameless handle := by
  intro entry listed same
  obtain ⟨kept, other⟩ := List.mem_filter.mp listed
  have own : entry.1 = name := by
    rw [← (sound.named entry kept).name, same, (sound.isNamed found).name]
  simp [own] at other

/-- The names of a broker never stand for a queue again that has lost its name. -/
theorem isNameless_operate (given : handle < broker.queues.length)
    (nameless : broker.IsNameless handle) (operation : Operation) :
    (broker.operate operation).IsNameless handle := by
  have fewer : ∀ name, (broker.unlink name).IsNameless handle :=
    fun name entry listed => nameless entry (List.mem_filter.mp listed).1
  cases operation with
  | create name capacity maxSize =>
    simp only [operate, create]
    split
    · exact nameless
    · intro entry listed
      rcases List.mem_append.mp listed with old | new
      · exact nameless entry old
      · rw [List.mem_singleton.mp new]
        exact Nat.ne_of_gt given
  | openQueue name =>
    simp only [operate, openQueue]
    split
    · exact nameless
    · split <;> exact nameless
  | unlink name => exact fewer name
  | close name =>
    simp only [operate, close]
    split
    · exact fewer name
    · exact nameless
  | failNextOpens count => exact nameless
  | send own frame =>
    simp only [operate]
    split <;> exact nameless
  | receive own =>
    simp only [operate]
    split <;> exact nameless
  | shut own => exact nameless

theorem handle?_unlink (broker : Broker) (name : String) :
    (broker.unlink name).handle? name = none := by
  simp [handle?, unlink, List.find?_filter]

theorem handle?_close (broker : Broker) (name : String) :
    (broker.close name).handle? name = none := by
  rw [close]
  split
  · exact handle?_unlink _ name
  · assumption

end

/-! ## Many operations -/

section
variable {broker : Broker} {handle : QueueHandle} {operations : List Operation}

theorem operateAll_cons (broker : Broker) (operation : Operation) (operations : List Operation) :
    broker.operateAll (operation :: operations) =
      (broker.operate operation).operateAll operations :=
  rfl

theorem operateAll_append (broker : Broker) (operations later : List Operation) :
    broker.operateAll (operations ++ later) =
      (broker.operateAll operations).operateAll later :=
  List.foldl_append

theorem sentTo_cons (handle : QueueHandle) (entry : Operation × Reply)
    (entries : List (Operation × Reply)) :
    sentTo handle (entry :: entries) = (sentBy? handle entry).toList ++ sentTo handle entries := by
  rw [sentTo, List.filterMap_cons]
  cases sentBy? handle entry <;> rfl

theorem receivedFrom_cons (handle : QueueHandle) (entry : Operation × Reply)
    (entries : List (Operation × Reply)) :
    receivedFrom handle (entry :: entries) =
      (receivedBy? handle entry).toList ++ receivedFrom handle entries := by
  rw [receivedFrom, List.filterMap_cons]
  cases receivedBy? handle entry <;> rfl

/-- What is received from a queue and left in it is what was there and what has been sent to it. -/
theorem flow_operateAll (broker : Broker) (handle : QueueHandle) (operations : List Operation) :
    receivedFrom handle (broker.record operations) ++
        ((broker.operateAll operations).queue handle).frames =
      (broker.queue handle).frames ++ sentTo handle (broker.record operations) := by
  induction operations generalizing broker with
  | nil => exact (List.append_nil _).symm
  | cons operation rest inductionHypothesis =>
    have step := (broker.effect_operate handle operation).flow
    rw [record, receivedFrom_cons, sentTo_cons, operateAll_cons, List.append_assoc,
      inductionHypothesis, ← List.append_assoc, step, List.append_assoc]

theorem isBounded_operateAll (bounded : (broker.queue handle).IsBounded) :
    ((broker.operateAll operations).queue handle).IsBounded := by
  induction operations generalizing broker with
  | nil => exact bounded
  | cons operation rest inductionHypothesis =>
    exact inductionHypothesis ((broker.effect_operate handle operation).isBounded bounded)

theorem measures_operateAll (given : handle < broker.queues.length) :
    ((broker.operateAll operations).queue handle).capacity = (broker.queue handle).capacity ∧
      ((broker.operateAll operations).queue handle).maxSize =
        (broker.queue handle).maxSize := by
  induction operations generalizing broker with
  | nil => exact ⟨rfl, rfl⟩
  | cons operation rest inductionHypothesis =>
    obtain ⟨capacity, maxSize⟩ := (broker.effect_operate handle operation).measures given
    obtain ⟨later, laterToo⟩ := inductionHypothesis (given_operate given operation)
    exact ⟨later.trans capacity, laterToo.trans maxSize⟩

theorem queue_operateAll_of_closed (given : handle < broker.queues.length)
    (closed : (broker.queue handle).closed = true) :
    (broker.operateAll operations).queue handle = broker.queue handle := by
  induction operations generalizing broker with
  | nil => rfl
  | cons operation rest inductionHypothesis =>
    have same := (broker.effect_operate handle operation).eq_of_closed given closed
    rw [operateAll_cons, inductionHypothesis (given_operate given operation) (same ▸ closed), same]

theorem running_operateAll (given : handle < broker.queues.length)
    (nameless : broker.IsNameless handle)
    (spared : ∀ operation ∈ operations, operation ≠ .shut handle)
    (running : (broker.queue handle).closed = false) :
    ((broker.operateAll operations).queue handle).closed = false := by
  induction operations generalizing broker with
  | nil => exact running
  | cons operation rest inductionHypothesis =>
    obtain ⟨first, later⟩ := List.forall_mem_cons.mp spared
    exact inductionHypothesis (given_operate given operation)
      (isNameless_operate given nameless operation) later
      ((broker.effect_operate handle operation).running nameless first running)

/-- An open queue is emptied by one call more than it holds frames. -/
theorem operateAll_receives (running : (broker.queue handle).closed = false) :
    broker.operateAll
        (List.replicate ((broker.queue handle).frames.length + 1) (.receive handle)) =
      broker.update handle { broker.queue handle with frames := [] } := by
  have opened : ¬ (broker.queue handle).closed = true := by simp [running]
  generalize held : (broker.queue handle).frames = frames
  -- Each call takes the oldest frame, and the last one finds the queue empty.
  induction frames generalizing broker with
  | nil =>
    have nothing : broker.operate (.receive handle) = broker.update handle (broker.queue handle) := by
      simp only [operate, Queue.receive, if_neg opened, held]
    rw [List.length_nil, Nat.zero_add, List.replicate_one, operateAll_cons, nothing, ← held]
    rfl
  | cons frame rest inductionHypothesis =>
    have taken : broker.operate (.receive handle) =
        broker.update handle { broker.queue handle with frames := rest } := by
      simp only [operate, Queue.receive, if_neg opened, held]
    have queue : (broker.update handle { broker.queue handle with frames := rest }).queue handle =
        { broker.queue handle with frames := rest } := queue_update_self (lt_of_open running)
    rw [List.length_cons, List.replicate_succ, operateAll_cons, taken,
      inductionHypothesis (by rw [queue]; exact running) (by rw [queue]; exact opened)
        (by rw [queue]), queue, update_update]

/-! ## Service -/

/-- Whether the queue of a handle serves those who call at it: it accepts a frame if it has a place
for it and allows its length, hands out its oldest frame, and tells how many it holds. -/
structure Serves (broker : Broker) (handle : QueueHandle) : Prop where
  sends : ∀ frame, broker.reply (.send handle frame) = .sent ↔
    frame.length ≤ (broker.queue handle).maxSize ∧
      (broker.queue handle).frames.length < (broker.queue handle).capacity
  receives : broker.reply (.receive handle) = .received (broker.queue handle).frames.head?
  counts : (broker.queue handle).length = .ok (broker.queue handle).frames.length

structure Refuses (broker : Broker) (handle : QueueHandle) : Prop where
  sends : ∀ frame, ∃ error, broker.reply (.send handle frame) = .refused error
  receives : ∃ error, broker.reply (.receive handle) = .refused error
  counts : ∃ error, (broker.queue handle).length = .error error

theorem serves_of_running (running : (broker.queue handle).closed = false) :
    broker.Serves handle := by
  refine ⟨fun frame => ?_, ?_, ?_⟩
  · rw [reply]
    cases outcome : (broker.queue handle).send frame with
    | accepted after =>
      obtain ⟨⟨short, _, room⟩, _⟩ := Queue.send_eq_accepted_iff.mp outcome
      exact iff_of_true rfl ⟨short, room⟩
    | mustWait =>
      refine iff_of_false (fun sent => by cases sent) fun ⟨short, room⟩ => ?_
      rw [Queue.send_eq_accepted_iff.mpr ⟨⟨short, running, room⟩, rfl⟩] at outcome
      cases outcome
    | refused error =>
      refine iff_of_false (fun sent => by cases sent) fun ⟨short, room⟩ => ?_
      rw [Queue.send_eq_accepted_iff.mpr ⟨⟨short, running, room⟩, rfl⟩] at outcome
      cases outcome
  · have opened : ¬ (broker.queue handle).closed = true := by simp [running]
    rw [reply, Queue.receive, if_neg opened]
    cases (broker.queue handle).frames <;> rfl
  · rw [Queue.length, Queue.checkOpen, running]
    rfl

theorem refuses_of_closed (closed : (broker.queue handle).closed = true) :
    broker.Refuses handle := by
  refine ⟨fun frame => ?_, ?_, ?_⟩
  · have refused : ∃ error, (broker.queue handle).send frame = .refused error := by
      rw [Queue.send, if_pos closed]
      split <;> exact ⟨_, rfl⟩
    obtain ⟨error, refused⟩ := refused
    exact ⟨error, by simp only [reply, refused]⟩
  · rw [reply, Queue.receive, if_pos closed]
    exact ⟨_, rfl⟩
  · rw [Queue.length, Queue.checkOpen, if_pos closed]
    exact ⟨_, rfl⟩

/-- A closed queue stays as it is for good. -/
theorem refuses_operateAll_of_closed (given : handle < broker.queues.length)
    (closed : (broker.queue handle).closed = true) :
    (broker.operateAll operations).queue handle = broker.queue handle ∧
      (broker.operateAll operations).Refuses handle := by
  have same : (broker.operateAll operations).queue handle = broker.queue handle :=
    queue_operateAll_of_closed given closed
  exact ⟨same, refuses_of_closed (same ▸ closed)⟩

end

/-- What holds of all queues, whatever has been done and will be done. Each of them keeps to its
measures, and what was received from it and what it holds are the frames that were sent to it. Once
it is closed, it refuses everything and holds what it held, and it is closed for good by its name as
well as by those who know it; while it is open, it serves them, even if it has lost its name. A
queue that is created under a free name is none of those before it, and hands out what is sent to it
alone. -/
theorem traffic_operateAll (earlier later : List Operation) :
    let before := empty.operateAll earlier
    let after := before.operateAll later
    (∀ handle, (before.queue handle).IsBounded ∧
      receivedFrom handle (empty.record earlier) ++ (before.queue handle).frames =
        sentTo handle (empty.record earlier)) ∧
    (∀ handle < before.queues.length,
      (after.queue handle).capacity = (before.queue handle).capacity ∧
      (after.queue handle).maxSize = (before.queue handle).maxSize ∧
      ((before.queue handle).closed = true →
        after.queue handle = before.queue handle ∧ after.Refuses handle)) ∧
    (∀ handle < before.queues.length, ∀ operation,
      (operation = .shut handle ∨
        ∃ name, operation = .close name ∧ before.handle? name = some handle) →
      let ended := before.operate operation
      (ended.queue handle).closed = true ∧
        (ended.queue handle).frames = (before.queue handle).frames ∧
        (ended.operateAll later).queue handle = ended.queue handle ∧
        (ended.operateAll later).Refuses handle) ∧
    (∀ handle, (before.queue handle).closed = false → before.Serves handle) ∧
    (∀ name handle, before.handle? name = some handle → (before.queue handle).closed = false →
      (∀ operation ∈ later, operation ≠ .shut handle) →
      ((before.unlink name).operateAll later).Serves handle) ∧
    (∀ name, (before.unlink name).handle? name = none ∧ (before.close name).handle? name = none) ∧
    (∀ name capacity maxSize, before.handle? name = none →
      let created := before.create name capacity maxSize
      before.queues.length ≤ created.1 ∧
      created.2.queue created.1 = .new name capacity maxSize ∧
      (∀ other ≠ created.1, created.2.queue other = before.queue other) ∧
      ∀ handle, receivedFrom handle (created.2.record later) ++
          ((created.2.operateAll later).queue handle).frames =
        (created.2.queue handle).frames ++ sentTo handle (created.2.record later)) := by
  intro before after
  have sound : before.IsSound := (empty.evolves_operateAll earlier).sound isSound_empty
  refine ⟨fun handle => ⟨?_, ?_⟩, fun handle given => ?_, fun handle given operation closes => ?_,
    fun handle running => ?_, ?_, fun name => ⟨handle?_unlink _ name, handle?_close _ name⟩, ?_⟩
  · exact isBounded_operateAll
      ⟨Nat.zero_lt_one, Nat.zero_le _, fun _ none => absurd none List.not_mem_nil⟩
  · exact flow_operateAll empty handle earlier
  · obtain ⟨capacity, maxSize⟩ : (after.queue handle).capacity = (before.queue handle).capacity ∧
        (after.queue handle).maxSize = (before.queue handle).maxSize := measures_operateAll given
    exact ⟨capacity, maxSize, refuses_operateAll_of_closed given⟩
  · have ended := queue_operate_of_closes given closes
    have closed : ((before.operate operation).queue handle).closed = true := by
      rw [ended]
      rfl
    have held :
        ((before.operate operation).queue handle).frames = (before.queue handle).frames := by
      rw [ended]
      rfl
    exact ⟨closed, held, refuses_operateAll_of_closed (given_operate given operation) closed⟩
  · exact serves_of_running running
  · intro name handle found running spared
    have given := (sound.isNamed found).given
    have nameless := isNameless_unlink sound found
    exact serves_of_running (running_operateAll given nameless spared running)
  · intro name capacity maxSize free created
    refine ⟨Nat.le_of_eq (create_of_free free).symm, queue_create_self free,
      fun other different => queue_create_of_ne free different,
      fun handle => flow_operateAll created.2 handle later⟩

/-- A queue loses its name while it holds a frame, and a second queue is created under the name. The
first one goes on: it is sent another frame, hands out the first, and keeps the other when it is
closed. The second one holds nothing but what was sent to it, and refuses everything once it is
closed by its name. -/
theorem traffic_of_reused_name :
    let earlier : List Operation := [.create "/q" 2 1, .send 0 [1], .unlink "/q",
      .create "/q" 2 1, .send 1 [2], .send 0 [3], .receive 0, .shut 0]
    let later : List Operation := [.send 0 [4], .receive 0, .receive 1]
    let before := empty.operateAll earlier
    let after := before.operateAll later
    (before.queue 0).closed = true ∧ (before.queue 0).frames = [[3]] ∧
      receivedFrom 0 (empty.record earlier) ++ [[3]] = [[1], [3]] ∧
      after.queue 0 = before.queue 0 ∧ after.Refuses 0 ∧
      (before.queue 1).closed = false ∧ before.Serves 1 ∧ before.handle? "/q" = some 1 ∧
      ((before.unlink "/q").operateAll later).Serves 1 ∧
      ((before.close "/q").queue 1).closed = true ∧
      ((before.close "/q").queue 1).frames = [[2]] ∧
      ((before.close "/q").operateAll later).Refuses 1 := by
  intro earlier later before after
  obtain ⟨flows, keeps, closes, serves, unlinked, _⟩ := traffic_operateAll earlier later
  have closed : (before.queue 0).closed = true := by decide +kernel
  have running : (before.queue 1).closed = false := by decide +kernel
  have named : before.handle? "/q" = some 1 := by decide +kernel
  have held : (before.queue 0).frames = [[3]] := by decide +kernel
  have sent : sentTo 0 (empty.record earlier) = [[1], [3]] := by decide +kernel
  have flow := (flows 0).2.trans sent
  rw [held] at flow
  obtain ⟨same, refuses⟩ := (keeps 0 (by decide +kernel)).2.2 closed
  have second : (before.queue 1).frames = [[2]] := by decide +kernel
  obtain ⟨ended, left, _, refusesToo⟩ :=
    closes 1 (by decide +kernel) (.close "/q") (.inr ⟨"/q", rfl, named⟩)
  exact ⟨closed, held, flow, same, refuses, running, serves 1 running, named,
    unlinked "/q" 1 named running (by simp [later]), ended, left.trans second, refusesToo⟩

end Broker

end HeatingBus
