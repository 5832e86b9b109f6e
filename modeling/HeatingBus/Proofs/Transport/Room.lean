import HeatingBus.Proofs.Queue.Room
import HeatingBus.Proofs.Transport.Sending

/-!
# Room for frames

A transport takes some frames if its outbound queue is open and takes them. It has sent them all
then, and still takes whatever else the queue has room for.
-/

namespace HeatingBus

namespace Transport

def TakesAll (transport : Transport) (frames : List Bytes) : Prop :=
  ∃ handle, transport.outbound = some handle ∧ (transport.broker.queue handle).closed = false ∧
    (transport.broker.queue handle).TakesAll frames

/-- Whether the outbound queue has some more frames in the second state of a transport than in the
first one, and nothing else has become of the queues and the connection. -/
structure Enqueues (before after : Transport) (frames : List Bytes) : Prop where
  outbound : after.outbound = before.outbound
  queue : ∀ handle, after.broker.queue handle =
    if before.outbound = some handle then (before.broker.queue handle).extend frames
    else before.broker.queue handle

section
variable {before between after transport : Transport} {frames others : List Bytes}
  {telegram : Telegram}

theorem Enqueues.of_same (outbound : after.outbound = before.outbound)
    (broker : after.broker = before.broker) : before.Enqueues after [] := by
  refine ⟨outbound, fun handle => ?_⟩
  rw [broker, Queue.extend_nil, ite_self]

theorem Enqueues.trans (first : before.Enqueues between frames)
    (second : between.Enqueues after others) : before.Enqueues after (frames ++ others) := by
  refine ⟨second.outbound.trans first.outbound, fun handle => ?_⟩
  rw [second.queue, first.queue, first.outbound]
  split
  · rw [Queue.extend_extend]
  · rfl

theorem Enqueues.appends (enqueues : before.Enqueues after frames) :
    before.Appends after frames := by
  intro handle
  rw [enqueues.queue]
  split
  · rfl
  · rw [List.append_nil]

theorem TakesAll.comm (takes : transport.TakesAll (frames ++ others)) :
    transport.TakesAll (others ++ frames) := by
  obtain ⟨handle, connected, running, takes⟩ := takes
  exact ⟨handle, connected, running, takes.comm⟩

theorem TakesAll.left (takes : transport.TakesAll (frames ++ others)) :
    transport.TakesAll frames := by
  obtain ⟨handle, connected, running, takes⟩ := takes
  exact ⟨handle, connected, running, (Queue.takesAll_append_iff.mp takes).1⟩

/-- Once a transport has some of the frames that it takes, it takes the others. -/
theorem Enqueues.takesAll (enqueues : before.Enqueues after frames)
    (takes : before.TakesAll (frames ++ others)) : after.TakesAll others := by
  obtain ⟨handle, connected, running, takes⟩ := takes
  refine ⟨handle, enqueues.outbound.trans connected, ?_⟩
  rw [enqueues.queue, if_pos connected]
  exact ⟨running, (Queue.takesAll_append_iff.mp takes).2⟩

theorem enqueues_send (takes : transport.TakesAll [telegram.toBytes]) :
    (transport.send telegram).1 = .ok () ∧
      transport.Enqueues (transport.send telegram).2 [telegram.toBytes] := by
  obtain ⟨own, connected, _, queue, accepted, _⟩ := takes
  have sent := send_eq_ok_iff.mpr ⟨own, queue, connected, accepted⟩
  have sends := transport.sends_send telegram
  rw [sent] at sends
  refine ⟨sent, ?_⟩
  generalize (transport.send telegram).2 = after at sends ⊢
  cases sends with
  | sent own queue journal connected accepted =>
    have given := Broker.lt_of_open (Queue.closed_of_accepted accepted)
    refine ⟨rfl, fun handle => ?_⟩
    by_cases same : handle = own
    · rw [same, Broker.queue_update_self given, if_pos connected, Queue.eq_of_accepted accepted,
        Queue.extend]
    · have other : transport.outbound ≠ some handle := by
        rw [connected, Ne, Option.some.injEq]
        exact Ne.symm same
      rw [Broker.queue_update_of_ne same, if_neg other]

end

end Transport

end HeatingBus
