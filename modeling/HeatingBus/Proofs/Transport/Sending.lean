import HeatingBus.Proofs.Queue.Operations
import HeatingBus.Transport.Basic

/-!
# Sending

What a transport does to the queues when it sends. The frame of the telegram is added to the end of
the outbound queue if the telegram is sent, and to no other queue; no queue changes if it is not.
-/

namespace HeatingBus

namespace Transport

/-- Whether some frames are all that was added to the queues between two states of a transport, and
were added to the outbound queue. -/
def Appends (before after : Transport) (frames : List Bytes) : Prop :=
  ∀ handle, (after.broker.queue handle).frames =
    (before.broker.queue handle).frames ++ if before.outbound = some handle then frames else []

def Takes (transport : Transport) (frame : Bytes) : Prop :=
  ∃ handle queue, transport.outbound = some handle ∧
    (transport.broker.queue handle).send frame = .accepted queue

inductive Sends (before : Transport) (telegram : Telegram) : Except Halt Unit → Transport → Prop where
  | unconnected (apart : before.outbound = none) :
      Sends before telegram (.error (.failed (.connection .outboundNotConnected))) before
  | sent (handle : QueueHandle) (queue : Queue) (journal : Journal)
      (connected : before.outbound = some handle)
      (accepted : (before.broker.queue handle).send telegram.toBytes = .accepted queue) :
      Sends before telegram (.ok ())
        { before with
          broker := before.broker.update handle queue
          counters := { before.counters with framesSent := before.counters.framesSent + 1 }
          journal }
  | waits (handle : QueueHandle) (journal : Journal) (connected : before.outbound = some handle)
      (full : (before.broker.queue handle).send telegram.toBytes = .mustWait) :
      Sends before telegram (.error .waiting) { before with journal }
  /-- The frame is refused, and the connection stays. -/
  | refused (handle : QueueHandle) (journal : Journal) (error : BusError)
      (connected : before.outbound = some handle)
      (refused : (before.broker.queue handle).send telegram.toBytes = .refused error)
      (frame : isFrameError error = true) :
      Sends before telegram (.error (.failed error))
        { before with
          counters := { before.counters with sendFailures := before.counters.sendFailures + 1 }
          journal }
  /-- The queue has failed, and the connection is given up. -/
  | lost (handle : QueueHandle) (journal : Journal) (error : BusError)
      (connected : before.outbound = some handle)
      (refused : (before.broker.queue handle).send telegram.toBytes = .refused error)
      (queue : isFrameError error = false) :
      Sends before telegram (.error (.failed error))
        { before.disconnect with
          counters := { before.counters with sendFailures := before.counters.sendFailures + 1 }
          journal }

section
variable {transport before after : Transport} {telegram : Telegram}

theorem appends_nil (same : after.broker = before.broker) : before.Appends after [] := by
  intro handle
  rw [same, ite_self, List.append_nil]

/-- A dump concerns the journal alone. -/
theorem exists_journal_dump (transport : Transport) (direction : String) (frame : Bytes) :
    ∃ journal, transport.dump direction frame = { transport with journal } := by
  unfold dump
  split
  · split <;> exact ⟨_, rfl⟩
  · exact ⟨_, rfl⟩

/-- Every send comes to one of these. -/
theorem sends_send (transport : Transport) (telegram : Telegram) :
    transport.Sends telegram (transport.send telegram).1 (transport.send telegram).2 := by
  rw [send]
  cases connected : transport.outbound with
  | none => exact .unconnected connected
  | some handle =>
    obtain ⟨journal, dumped⟩ := transport.exists_journal_dump "TX" telegram.toBytes
    simp only [dumped]
    cases outcome : (transport.broker.queue handle).send telegram.toBytes with
    | accepted queue => exact .sent handle queue journal connected outcome
    | mustWait => exact .waits handle journal connected outcome
    | refused error =>
      dsimp only
      split
      · rename_i frame
        exact .refused handle journal error connected outcome frame
      · rename_i queue
        exact .lost handle journal error connected outcome (Bool.eq_false_iff.mpr queue)

/-- A queue has grown by a frame only if the frame was added. -/
theorem Appends.eq_of_queued {frames : List Bytes} {frame : Bytes} {handle : QueueHandle}
    (appends : before.Appends after frames)
    (queued : (after.broker.queue handle).frames =
      (before.broker.queue handle).frames ++ [frame]) : frames = [frame] := by
  have grown := appends handle
  rw [queued, List.append_cancel_left_eq] at grown
  split at grown
  · exact grown.symm
  · cases grown

/-- A frame that the outbound queue accepts is added to that queue alone. -/
theorem appends_update {own : QueueHandle} {queue : Queue} {frame : Bytes}
    (connected : before.outbound = some own)
    (accepted : (before.broker.queue own).send frame = .accepted queue)
    (updated : after.broker = before.broker.update own queue) : before.Appends after [frame] := by
  have given := Broker.lt_of_open (Queue.closed_of_accepted accepted)
  intro handle
  rw [updated]
  by_cases same : handle = own
  · rw [same, Broker.queue_update_self given, Queue.eq_of_accepted accepted, if_pos connected]
  · have different : before.outbound ≠ some handle := by
      rw [connected, Ne, Option.some.injEq]
      exact Ne.symm same
    rw [Broker.queue_update_of_ne same, if_neg different, List.append_nil]

/-- A telegram is sent exactly if its frame is taken. -/
theorem send_eq_ok_iff :
    (transport.send telegram).1 = .ok () ↔ transport.Takes telegram.toBytes := by
  have sends := transport.sends_send telegram
  generalize (transport.send telegram).1 = result, (transport.send telegram).2 = after at sends ⊢
  cases sends with
  | unconnected apart => simp [Takes, apart]
  | sent handle queue journal connected accepted => simp [Takes, connected, accepted]
  | waits handle journal connected full => simp [Takes, connected, full]
  | refused handle journal error connected refused | lost handle journal error connected refused =>
    simp [Takes, connected, refused]

/-- A telegram that is sent has its frame in the outbound queue, and one that is not has left
none. -/
theorem appends_send (transport : Transport) (telegram : Telegram) :
    transport.Appends (transport.send telegram).2
      (match (transport.send telegram).1 with
        | .ok () => [telegram.toBytes]
        | .error _ => []) := by
  have sends := transport.sends_send telegram
  generalize (transport.send telegram).1 = result, (transport.send telegram).2 = after at sends ⊢
  cases sends with
  | sent handle queue journal connected accepted => exact appends_update connected accepted rfl
  -- A frame that has to wait or is refused is in no queue, whether the connection goes on or not.
  | unconnected | waits | refused | lost => exact appends_nil rfl

end

end Transport

end HeatingBus
