import HeatingBus.Proofs.Telegram.Codec
import HeatingBus.Proofs.Transport.Room

/-!
# Receiving

Receiving takes frames from the inbound queue, the oldest first, and hands on the telegrams of those
that are intact. Every frame that is taken is counted once: as too short, as too long, as damaged or
as received.
-/

namespace HeatingBus

instance (frame : Bytes) : Decidable (IsSealed frame) :=
  inferInstanceAs (Decidable (_ = _))

/-! ## What becomes of a frame -/

inductive Reception where
  | short
  | oversize
  /-- The frame is of a length that is accepted, and its checksum is wrong. -/
  | damaged
  | received
  deriving DecidableEq

namespace TransportConfig

/-- What becomes of a frame: its length is looked at first, and then its checksum. -/
def reception (config : TransportConfig) (frame : Bytes) : Reception :=
  if frame.length < 6 then .short
  else if config.maxFrame < frame.length then .oversize
  else if IsSealed frame then .received
  else .damaged

def IsIntact (config : TransportConfig) (frame : Bytes) : Prop :=
  (6 ≤ frame.length ∧ frame.length ≤ config.maxFrame) ∧
    frame.getLast? = some (checksum frame.dropLast)

instance (config : TransportConfig) (frame : Bytes) : Decidable (config.IsIntact frame) :=
  inferInstanceAs (Decidable (_ ∧ _))

variable {config : TransportConfig} {frame : Bytes}

theorem reception_eq_received_iff : config.reception frame = .received ↔ config.IsIntact frame := by
  rw [reception, IsIntact]
  split
  · simp; omega
  · split
    · simp; omega
    · split
      · rename_i sealing
        exact iff_of_true rfl ⟨by omega, sealing⟩
      · rename_i unsealed
        exact iff_of_false (by simp) fun intact => unsealed intact.2

theorem of_guard {condition : Prop} [Decidable condition] {fault : ConfigurationFault}
    {rest : Except ConfigurationFault Unit}
    (kept : (do if condition then throw fault
                rest) = .ok ()) : ¬ condition ∧ rest = .ok () := by
  split at kept
  · cases kept
  · rename_i unmet
    exact ⟨unmet, kept⟩

/-- The greatest length of a frame is one that the bus can carry. -/
theorem maxFrame_of_check (checked : config.check = .ok ()) :
    6 ≤ config.maxFrame ∧ config.maxFrame ≤ 32 := by
  -- The bounds are the fifth rule, after those of the two names and of the capacity.
  obtain ⟨_, checked⟩ := of_guard checked
  obtain ⟨_, checked⟩ := of_guard checked
  obtain ⟨_, checked⟩ := of_guard checked
  obtain ⟨_, checked⟩ := of_guard checked
  obtain ⟨within, _⟩ := of_guard checked
  rw [minTelegramLength, maxTelegramLength] at within
  omega

theorem check_default : ({} : TransportConfig).check = .ok () := by
  have kept : ({} : TransportConfig).check.toOption = some () := by decide +kernel
  cases checked : ({} : TransportConfig).check with
  | ok value => rfl
  | error fault =>
    rw [checked] at kept
    cases kept

end TransportConfig

namespace TransportCounters

def tally (counters : TransportCounters) : Reception → TransportCounters
  | .short => { counters with shortFrames := counters.shortFrames + 1 }
  | .oversize => { counters with oversizeFrames := counters.oversizeFrames + 1 }
  | .damaged => { counters with checksumFailures := counters.checksumFailures + 1 }
  | .received => { counters with framesReceived := counters.framesReceived + 1 }

def taken (counters : TransportCounters) : Nat :=
  counters.shortFrames + counters.oversizeFrames + counters.checksumFailures +
    counters.framesReceived

theorem taken_tally (counters : TransportCounters) (reception : Reception) :
    (counters.tally reception).taken = counters.taken + 1 := by
  cases reception <;> simp only [tally, taken] <;> omega

/-- Each kind of frames is counted for itself. -/
theorem foldl_tally (counters : TransportCounters) (receptions : List Reception) :
    receptions.foldl tally counters =
      { counters with
        shortFrames := counters.shortFrames + receptions.count .short
        oversizeFrames := counters.oversizeFrames + receptions.count .oversize
        checksumFailures := counters.checksumFailures + receptions.count .damaged
        framesReceived := counters.framesReceived + receptions.count .received } := by
  induction receptions generalizing counters with
  | nil => rfl
  | cons reception rest inductionHypothesis =>
    rw [List.foldl_cons, inductionHypothesis]
    cases reception <;> simp [tally] <;> omega

theorem taken_foldl_tally (counters : TransportCounters) (receptions : List Reception) :
    (receptions.foldl tally counters).taken = counters.taken + receptions.length := by
  induction receptions generalizing counters with
  | nil => rfl
  | cons reception rest inductionHypothesis =>
    rw [List.foldl_cons, inductionHypothesis, taken_tally, List.length_cons]
    omega

end TransportCounters

namespace Transport

/-! ## One frame -/

section
variable {transport : Transport} {handle : QueueHandle} {frame : Bytes} {rest : List Bytes}
  {telegram : Telegram}

/-- Whether a transport differs in its counters and its journal at most. -/
structure KeepsLinks (before after : Transport) : Prop where
  config : after.config = before.config
  inbound : after.inbound = before.inbound
  broker : after.broker = before.broker

structure Accepts (before : Transport) (frame : Bytes) (telegram : Option Telegram)
    (after : Transport) : Prop where
  links : before.KeepsLinks after
  counted : after.counters = before.counters.tally (before.config.reception frame)
  handed : telegram.map Telegram.toBytes = if before.config.IsIntact frame then some frame else none

theorem accepts_accept (transport : Transport) (checked : transport.config.check = .ok ())
    (frame : Bytes) :
    transport.Accepts frame (transport.accept frame).1 (transport.accept frame).2 := by
  have bounds := TransportConfig.maxFrame_of_check checked
  have minimum : minTelegramLength = 6 := rfl
  rw [accept, minimum]
  split
  · rename_i short
    have dropped : transport.config.reception frame = .short := if_pos short
    refine ⟨⟨rfl, rfl, rfl⟩, by rw [dropped]; rfl, ?_⟩
    simp [← TransportConfig.reception_eq_received_iff, dropped]
  · rename_i least
    split
    · rename_i long
      have dropped : transport.config.reception frame = .oversize := by
        rw [TransportConfig.reception, if_neg least, if_pos long]
      refine ⟨⟨rfl, rfl, rfl⟩, by rw [dropped]; rfl, ?_⟩
      simp [← TransportConfig.reception_eq_received_iff, dropped]
    · rename_i greatest
      have within : 6 ≤ frame.length ∧ frame.length ≤ 32 := by omega
      obtain ⟨journal, dumped⟩ := transport.exists_journal_dump "RX" frame
      -- What is within the limits of the configuration is within those of the bus.
      by_cases sealing : IsSealed frame
      · have received : transport.config.reception frame = .received := by
          rw [TransportConfig.reception, if_neg least, if_neg greatest, if_pos sealing]
        obtain ⟨telegram, parsed⟩ := Telegram.exists_parse_eq_ok_iff.mpr ⟨within, sealing⟩
        simp only [dumped, parsed]
        refine ⟨⟨rfl, rfl, rfl⟩, by rw [received]; rfl, ?_⟩
        simp [← TransportConfig.reception_eq_received_iff, received,
          (Telegram.parse_eq_ok_iff.mp parsed).2]
      · have damaged : transport.config.reception frame = .damaged := by
          rw [TransportConfig.reception, if_neg least, if_neg greatest, if_neg sealing]
        have refused := Telegram.parse_of_not_isSealed within.1 within.2 sealing
        simp only [dumped, refused]
        refine ⟨⟨rfl, rfl, rfl⟩, by rw [damaged]; rfl, ?_⟩
        simp [← TransportConfig.reception_eq_received_iff, damaged]

def deliver (transport : Transport) (handle : QueueHandle) (frames : List Bytes) : Transport :=
  { transport with
    broker := transport.broker.update handle
      ((transport.broker.queue handle).extend frames) }

/-- Whether a transport listens to the queue of a handle: the queue is open, and the settings keep
the rules. -/
structure ListensTo (transport : Transport) (handle : QueueHandle) : Prop where
  checked : transport.config.check = .ok ()
  connected : transport.inbound = some handle
  running : (transport.broker.queue handle).closed = false

/-- How a transport that listens to a queue has moved on: while some frames arrived it took some
from the front of the queue, counted them and handed on telegrams. -/
structure Receives (before after : Transport) (handle : QueueHandle) (arrived taken : List Bytes)
    (telegrams : List Telegram) : Prop where
  listens : after.ListensTo handle
  config : after.config = before.config
  queue : (before.broker.queue handle).frames ++ arrived =
    taken ++ (after.broker.queue handle).frames
  counted : after.counters =
    (taken.map before.config.reception).foldl TransportCounters.tally before.counters
  handed : telegrams.map Telegram.toBytes = taken.filter (before.config.IsIntact ·)

theorem receives_of_unchanged (listens : transport.ListensTo handle) :
    transport.Receives transport handle [] [] [] :=
  ⟨listens, rfl, List.append_nil _, rfl, rfl⟩

theorem Receives.trans {before between after : Transport} {arrived taken arrivedLater takenLater :
    List Bytes} {telegrams later : List Telegram}
    (first : before.Receives between handle arrived taken telegrams)
    (second : between.Receives after handle arrivedLater takenLater later) :
    before.Receives after handle (arrived ++ arrivedLater) (taken ++ takenLater)
      (telegrams ++ later) where
  listens := second.listens
  config := second.config.trans first.config
  queue := by
    rw [← List.append_assoc, first.queue, List.append_assoc, second.queue, List.append_assoc]
  counted := by
    rw [second.counted, first.counted, first.config, List.map_append, List.foldl_append]
  handed := by
    rw [List.map_append, first.handed, second.handed, first.config, List.filter_append]

theorem receives_deliver (listens : transport.ListensTo handle) (frames : List Bytes) :
    transport.Receives (transport.deliver handle frames) handle frames [] [] := by
  have given := Broker.lt_of_open listens.running
  have queue : (transport.deliver handle frames).broker.queue handle =
      (transport.broker.queue handle).extend frames := Broker.queue_update_self given
  refine ⟨⟨listens.checked, listens.connected, ?_⟩, rfl, ?_, rfl, rfl⟩
  · rw [queue]
    exact listens.running
  · rw [queue]
    rfl

/-! ## One call -/

/-- A call takes the oldest frame if there is one, and it never fails. -/
theorem exists_receives_receive (listens : transport.ListensTo handle) :
    ∃ telegram, transport.receive.1 = .ok telegram ∧
      transport.Receives transport.receive.2 handle []
        ((transport.broker.queue handle).frames.take 1) telegram.toList := by
  obtain ⟨checked, connected, running⟩ := listens
  have opened : ¬ (transport.broker.queue handle).closed = true := by simp [running]
  cases waiting : (transport.broker.queue handle).frames with
  | nil =>
    have nothing : transport.receive = (.ok none, transport) := by
      simp only [receive, connected, Queue.receive, if_neg opened, waiting]
    rw [nothing]
    exact ⟨none, rfl, receives_of_unchanged ⟨checked, connected, running⟩⟩
  | cons frame rest =>
    let shorter : Transport :=
      { transport with
        broker := transport.broker.update handle
          { transport.broker.queue handle with frames := rest } }
    have taken : transport.receive = (.ok (shorter.accept frame).1, (shorter.accept frame).2) := by
      simp only [receive, connected, Queue.receive, if_neg opened, waiting, shorter]
    obtain ⟨links, counted, handed⟩ := shorter.accepts_accept checked frame
    have queue : (shorter.accept frame).2.broker.queue handle =
        { transport.broker.queue handle with frames := rest } := by
      rw [links.broker]
      exact Broker.queue_update_self (Broker.lt_of_open running)
    rw [taken]
    refine ⟨_, rfl, ⟨?_, links.inbound.trans connected, ?_⟩, links.config, ?_, counted, ?_⟩
    · rwa [links.config]
    · rwa [queue]
    · rw [queue, waiting, List.append_nil]
      rfl
    · have handed : (shorter.accept frame).1.map Telegram.toBytes =
          if transport.config.IsIntact frame then some frame else none := handed
      generalize (shorter.accept frame).1 = telegram at handed ⊢
      split at handed
      · rename_i intact
        obtain ⟨own, rfl, written⟩ := Option.map_eq_some_iff.mp handed
        simp [intact, written]
      · rename_i damaged
        rw [Option.map_eq_none_iff] at handed
        simp [handed, damaged]

/-! ## Many calls -/

/-- Receives once for each of some arrivals of frames, each time after they have arrived. -/
def listen (transport : Transport) (handle : QueueHandle) :
    List (List Bytes) → List (Except BusError (Option Telegram)) × Transport
  | [] => ([], transport)
  | arrivals :: rest =>
    let received := (transport.deliver handle arrivals).receive
    let later := received.2.listen handle rest
    (received.1 :: later.1, later.2)

theorem exists_receives_listen (listens : transport.ListensTo handle)
    (rounds : List (List Bytes)) :
    ∃ (taken : List Bytes) (telegrams : List (Option Telegram)),
      (transport.listen handle rounds).1 = telegrams.map .ok ∧
      transport.Receives (transport.listen handle rounds).2 handle rounds.flatten taken
        (telegrams.flatMap Option.toList) ∧
      min rounds.length (transport.broker.queue handle).frames.length ≤ taken.length ∧
      taken.length ≤ rounds.length := by
  induction rounds generalizing transport with
  | nil => exact ⟨[], [], rfl, receives_of_unchanged listens, by simp, Nat.le_refl 0⟩
  | cons arrivals rest inductionHypothesis =>
    have arrived := receives_deliver listens arrivals
    obtain ⟨telegram, result, received⟩ := exists_receives_receive arrived.listens
    obtain ⟨taken, telegrams, results, later, least, greatest⟩ :=
      inductionHypothesis received.listens
    have together := (arrived.trans received).trans later
    rw [List.append_nil, List.nil_append, List.nil_append] at together
    have queued : ((transport.deliver handle arrivals).broker.queue handle).frames =
        (transport.broker.queue handle).frames ++ arrivals := arrived.queue.symm
    have left := congrArg List.length received.queue
    rw [List.append_nil, List.length_append, List.length_take, queued, List.length_append] at left
    refine ⟨_, telegram :: telegrams, ?_, together, ?_, ?_⟩
    · rw [listen, result, results]
      rfl
    · rw [List.length_append, List.length_take, queued, List.length_append, List.length_cons]
      omega
    · rw [List.length_append, List.length_take, List.length_cons]
      omega

/-- Receiving is a counting filter. Each call takes the oldest frame that is there, and whatever
arrives meanwhile, no frame is lost or taken twice. The telegrams that are handed on are those of
the intact frames, in the order of the queue, and every frame that is taken is counted once. -/
theorem listen_filters (listens : transport.ListensTo handle) (rounds : List (List Bytes)) :
    let outcome := transport.listen handle rounds
    let waiting := (transport.broker.queue handle).frames
    ∃ (taken : List Bytes) (telegrams : List (Option Telegram)),
      outcome.1 = telegrams.map .ok ∧
      waiting ++ rounds.flatten = taken ++ (outcome.2.broker.queue handle).frames ∧
      (min rounds.length waiting.length ≤ taken.length ∧ taken.length ≤ rounds.length) ∧
      (telegrams.flatMap Option.toList).map Telegram.toBytes = taken.filter (fun frame =>
        (6 ≤ frame.length ∧ frame.length ≤ transport.config.maxFrame) ∧
          frame.getLast? = some (checksum frame.dropLast)) ∧
      outcome.2.counters =
        { transport.counters with
          shortFrames := transport.counters.shortFrames +
            (taken.map transport.config.reception).count .short
          oversizeFrames := transport.counters.oversizeFrames +
            (taken.map transport.config.reception).count .oversize
          checksumFailures := transport.counters.checksumFailures +
            (taken.map transport.config.reception).count .damaged
          framesReceived := transport.counters.framesReceived +
            (taken.map transport.config.reception).count .received } ∧
      outcome.2.counters.taken = transport.counters.taken + taken.length := by
  intro outcome waiting
  obtain ⟨taken, telegrams, results, received, least, greatest⟩ :=
    exists_receives_listen listens rounds
  refine ⟨taken, telegrams, results, received.queue, ⟨least, greatest⟩, received.handed, ?_, ?_⟩
  · rw [received.counted, TransportCounters.foldl_tally]
  · rw [received.counted, TransportCounters.taken_foldl_tally, List.length_map]

end

/-- Of four frames one is too short, one too long and one damaged. A telegram arrives twice, the
second time right before the second call, and it is handed on twice. -/
theorem listen_filters_of_mixed :
    let frame := (Telegram.readRequest 0x0B 8 onlineMessage).toBytes
    let frames := [[1, 2], frame, List.replicate 33 0, [1, 2, 3, 4, 5, 6]]
    let transport : Transport :=
      { Transport.new {} (.outside fun _ => true)
          { Broker.empty with queues := [{ Queue.new "in" 8 64 with frames }] } with
        inbound := some 0 }
    let outcome := transport.listen 0 [[], [frame], [], [], [], []]
    transport.ListensTo 0 ∧ outcome.2.counters.taken = 5 ∧
      ∃ telegrams : List (Option Telegram), outcome.1 = telegrams.map .ok ∧
        (telegrams.flatMap Option.toList).map Telegram.toBytes = [frame, frame] := by
  intro frame frames transport outcome
  have listens : transport.ListensTo 0 := ⟨TransportConfig.check_default, rfl, rfl⟩
  obtain ⟨taken, telegrams, results, queue, _, handed, _, counted⟩ :=
    listen_filters listens [[], [frame], [], [], [], []]
  have left : (outcome.2.broker.queue 0).frames = [] := by decide +kernel
  have all : frames ++ [frame] = taken ++ (outcome.2.broker.queue 0).frames := queue
  rw [left, List.append_nil] at all
  subst all
  refine ⟨listens, counted, telegrams, results, handed.trans ?_⟩
  decide +kernel

end Transport

end HeatingBus
