import HeatingBus.Proofs.Transport.Sending
import HeatingBus.Transport.Connect

/-!
# Attempts to connect

What an open of a call that connects does to the queues, and how the call goes on after it. Only a
first attempt discards stale frames, and all of them at once; it may fail after that, if the boiler
cannot be asked who is present.
-/

namespace HeatingBus

/-! ## Exchanges -/

namespace Broker

/-- Whether all that has become of the queues is that some frames were taken from the front of one
queue, and some were put behind those of another one. -/
structure ExchangesBetween (before after : Broker) (inbound outbound : QueueHandle)
    (removed appended : List Bytes) : Prop where
  apart : inbound ≠ outbound
  taken : (before.queue inbound).frames = removed ++ (after.queue inbound).frames
  put : (after.queue outbound).frames = (before.queue outbound).frames ++ appended
  others : ∀ handle, handle ≠ inbound → handle ≠ outbound →
    (after.queue handle).frames = (before.queue handle).frames

/-- Whether some frames were taken from a queue of one name, some were put into a queue of another
name, and that is all. -/
def Exchanges (before after : Broker) (source target : String) (removed appended : List Bytes) :
    Prop :=
  ∃ inbound outbound, before.ExchangesBetween after inbound outbound removed appended ∧
    (removed ≠ [] → after.IsNamed inbound source) ∧ (appended ≠ [] → after.IsNamed outbound target)

section
variable {before after : Broker} {inbound outbound handle : QueueHandle} {source target : String}
  {removed appended removedToo appendedToo : List Bytes}

theorem exchanges_of_same
    (same : ∀ handle, (after.queue handle).frames = (before.queue handle).frames) :
    before.Exchanges after source target [] [] :=
  ⟨0, 1, ⟨by decide, (same 0).symm, by rw [same, List.append_nil], fun handle _ _ => same handle⟩,
    fun gone => absurd rfl gone, fun put => absurd rfl put⟩

theorem ExchangesBetween.exists_put
    (exchanges : before.ExchangesBetween after inbound outbound removed appended)
    (different : handle ≠ inbound) :
    ∃ more, (after.queue handle).frames = (before.queue handle).frames ++ more := by
  by_cases own : handle = outbound
  · rw [own]
    exact ⟨appended, exchanges.put⟩
  · exact ⟨[], by rw [exchanges.others handle different own, List.append_nil]⟩

theorem ExchangesBetween.exists_taken
    (exchanges : before.ExchangesBetween after inbound outbound removed appended)
    (different : handle ≠ outbound) :
    ∃ less, (before.queue handle).frames = less ++ (after.queue handle).frames := by
  by_cases own : handle = inbound
  · rw [own]
    exact ⟨removed, exchanges.taken⟩
  · exact ⟨[], (exchanges.others handle own different).symm⟩

theorem eq_nil_of_taken_of_put {frames framesAfter : List Bytes}
    (taken : frames = removed ++ framesAfter) (put : framesAfter = frames ++ appended) :
    removed = [] ∧ appended = [] := by
  have lengths := congrArg List.length taken
  rw [put, List.length_append, List.length_append] at lengths
  exact ⟨List.eq_nil_of_length_eq_zero (by omega), List.eq_nil_of_length_eq_zero (by omega)⟩

/-- What was taken and what was put can be told from the queues before and after. -/
theorem Exchanges.eq (exchanges : before.Exchanges after source target removed appended)
    (exchangesToo : before.Exchanges after source target removedToo appendedToo) :
    removed = removedToo ∧ appended = appendedToo := by
  obtain ⟨inbound, outbound, exchanges, _⟩ := exchanges
  obtain ⟨inboundToo, outboundToo, exchangesToo, _⟩ := exchangesToo
  constructor
  · by_cases same : inboundToo = inbound
    · rw [same] at exchangesToo
      exact List.append_cancel_right (exchanges.taken.symm.trans exchangesToo.taken)
    · obtain ⟨_, put⟩ := exchangesToo.exists_put (Ne.symm same)
      obtain ⟨_, putToo⟩ := exchanges.exists_put same
      rw [(eq_nil_of_taken_of_put exchanges.taken put).1,
        (eq_nil_of_taken_of_put exchangesToo.taken putToo).1]
  · by_cases same : outboundToo = outbound
    · rw [same] at exchangesToo
      exact List.append_cancel_left (exchanges.put.symm.trans exchangesToo.put)
    · obtain ⟨_, taken⟩ := exchangesToo.exists_taken (Ne.symm same)
      obtain ⟨_, takenToo⟩ := exchanges.exists_taken same
      rw [(eq_nil_of_taken_of_put taken exchanges.put).2,
        (eq_nil_of_taken_of_put takenToo exchangesToo.put).2]

end

end Broker

inductive ConnectProgress.IsIn : ConnectProgress → Nat → Prop where
  | outbound (attempt : Nat) : IsIn (.openingOutbound attempt) attempt
  | inbound (attempt : Nat) (outbound : QueueHandle) :
      IsIn (.openingInbound attempt outbound) attempt

namespace Transport

/-! ## Steps -/

/-- How a step of a call has moved a transport: it took some frames from an inbound queue, counted
them as discarded, and put some frames into an outbound queue. -/
structure Moves (before after : Transport) (removed appended : List Bytes) : Prop where
  config : after.config = before.config
  clientId : after.clientId = before.clientId
  evolves : before.broker.Evolves after.broker
  exchanges : before.broker.Exchanges after.broker before.config.inboundQueue
    before.config.outboundQueue removed appended
  drained : after.counters.framesDrained = before.counters.framesDrained + removed.length

structure LeavesFrames (before after : Transport) : Prop where
  config : after.config = before.config
  clientId : after.clientId = before.clientId
  evolves : before.broker.Evolves after.broker
  frames : ∀ handle, (after.broker.queue handle).frames = (before.broker.queue handle).frames
  drained : after.counters.framesDrained = before.counters.framesDrained

section
variable {before between after transport : Transport} {removed appended : List Bytes}
  {attempt : Nat} {inbound outbound : QueueHandle} {name : String} {error : BusError}
  {telegram : Telegram}

theorem LeavesFrames.moves (leaves : before.LeavesFrames after) : before.Moves after [] [] :=
  ⟨leaves.config, leaves.clientId, leaves.evolves, Broker.exchanges_of_same leaves.frames,
    leaves.drained⟩

theorem LeavesFrames.trans (first : before.LeavesFrames between)
    (second : between.LeavesFrames after) : before.LeavesFrames after :=
  ⟨second.config.trans first.config, second.clientId.trans first.clientId,
    first.evolves.trans second.evolves,
    fun handle => (second.frames handle).trans (first.frames handle),
    second.drained.trans first.drained⟩

theorem Moves.leaves (moves : before.Moves between removed appended)
    (leaves : between.LeavesFrames after) : before.Moves after removed appended := by
  obtain ⟨config, clientId, evolves, exchanges, drained⟩ := moves
  obtain ⟨inbound, outbound, ⟨apart, taken, put, others⟩, source, target⟩ := exchanges
  refine ⟨leaves.config.trans config, leaves.clientId.trans clientId, evolves.trans leaves.evolves,
    ⟨inbound, outbound, ⟨apart, ?_, ?_, ?_⟩, fun gone => leaves.evolves.keeps _ _ (source gone),
      fun some => leaves.evolves.keeps _ _ (target some)⟩, leaves.drained.trans drained⟩
  · rw [leaves.frames, taken]
  · rw [leaves.frames, put]
  · intro handle different differentToo
    rw [leaves.frames, others handle different differentToo]

end

/-! ## Opens -/

def HasAsked (transport : Transport) (request : Bytes) : Prop :=
  ∃ inbound outbound, transport.inbound = some inbound ∧ transport.outbound = some outbound ∧
    (transport.broker.queue inbound).frames = [] ∧
    (transport.broker.queue outbound).frames.getLast? = some request

inductive Settles (before : Transport) (attempt : Nat) :
    Except Halt ConnectOutcome → Transport → Prop where
  | broken (error : BusError) : Settles before attempt (.error (.failed error)) before
  | calm : Settles before attempt (.ok ⟨attempt, 0, false⟩) before
  /-- The stale frames are discarded, and the boiler is asked who is present. -/
  | asked (after : Transport) (stale : List Bytes) (first : attempt ≤ 1)
      (backlog : stale ≠ [])
      (moves : before.Moves after stale [before.presenceRequest.toBytes])
      (asked : after.HasAsked before.presenceRequest.toBytes) :
      Settles before attempt (.ok ⟨attempt, stale.length, true⟩) after
  /-- The stale frames are discarded, but the request is not sent. -/
  | unasked (after : Transport) (stale : List Bytes) (halt : Halt) (first : attempt ≤ 1)
      (moves : before.Moves after stale []) :
      Settles before attempt (.error halt) after

section
variable {transport : Transport} {attempt : Nat} {inbound outbound : QueueHandle}

inductive Advances (before : Transport) (attempt : Nat) :
    ConnectProgress → Transport → List Bytes → List Bytes → Prop where
  | goesOn (outbound : QueueHandle) (after : Transport)
      (named : after.broker.IsNamed outbound after.config.outboundQueue) :
      Advances before attempt (.openingInbound attempt outbound) after [] []
  /-- The attempt fails, and a first attempt may have discarded frames before that. -/
  | fails (after : Transport) (stale : List Bytes) (first : stale ≠ [] → attempt ≤ 1) :
      Advances before attempt (.openingOutbound (attempt + 1)) after stale []
  | gaveUp (after : Transport) (stale : List Bytes) (halt : Halt) :
      Advances before attempt (.finished (.error halt)) after stale []
  | connected (after : Transport) :
      Advances before attempt (.finished (.ok ⟨attempt, 0, false⟩)) after [] []
  | bootstrapped (after : Transport) (stale : List Bytes) (first : attempt ≤ 1)
      (backlog : stale ≠ [])
      (asked : after.HasAsked before.presenceRequest.toBytes) :
      Advances before attempt (.finished (.ok ⟨attempt, stale.length, true⟩)) after stale
        [before.presenceRequest.toBytes]

/-- Whether a call finds its queues in order: there are two of them, and the one that it has opened
is the outbound one. -/
structure FindsQueues (transport : Transport) (progress : ConnectProgress) : Prop where
  sound : transport.broker.IsSound
  distinct : transport.config.inboundQueue ≠ transport.config.outboundQueue
  opened : ∀ attempt outbound, progress = .openingInbound attempt outbound →
    transport.broker.IsNamed outbound transport.config.outboundQueue

theorem FindsQueues.next {progress next : ConnectProgress} {after : Transport}
    {removed appended : List Bytes} (finds : transport.FindsQueues progress)
    (moves : transport.Moves after removed appended)
    (advances : transport.Advances attempt next after removed appended) :
    after.FindsQueues next := by
  refine ⟨moves.evolves.sound finds.sound, by rw [moves.config]; exact finds.distinct, ?_⟩
  rintro attempt outbound rfl
  cases advances with
  | goesOn _ _ named => exact named

end

end Transport

end HeatingBus
