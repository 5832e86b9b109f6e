import HeatingBus.Proofs.Queue.Traffic
import HeatingBus.Proofs.Transport.Connecting

/-!
# Deeds of a transport

What a transport does to the queues, operation by operation, while others are at work on them. The
queues are changed by these operations alone, and the transport counts each of its sends once: as a
frame sent if the queue has accepted the frame, as a failure if the queue has refused it.
-/

namespace HeatingBus

/-! ## Deeds -/

inductive Party where
  | transport
  | others

structure Deed where
  party : Party
  operation : Broker.Operation

def Broker.Reply.isSent : Broker.Reply → Bool
  | .sent => true
  | _ => false

def Broker.Reply.isRefused : Broker.Reply → Bool
  | .refused _ => true
  | _ => false

namespace Broker

/-- What the queues answer to a send of the transport; other deeds are left aside. -/
def sendReply? (broker : Broker) : Deed → Option Reply
  | ⟨.transport, .send handle frame⟩ => some (broker.reply (.send handle frame))
  | _ => none

def sendReplies (broker : Broker) : List Deed → List Reply
  | [] => []
  | deed :: rest =>
    (broker.sendReply? deed).toList ++ (broker.operate deed.operation).sendReplies rest

def afterDeeds (broker : Broker) (deeds : List Deed) : Broker :=
  broker.operateAll (deeds.map Deed.operation)

section
variable {broker : Broker} {handle : QueueHandle}

/-- A send is answered as sent exactly if its frame has been put behind those in its queue. -/
theorem isSent_reply_iff {frame : Bytes} :
    (broker.reply (.send handle frame)).isSent = true ↔
      ((broker.operate (.send handle frame)).queue handle).frames =
        (broker.queue handle).frames ++ [frame] := by
  cases outcome : (broker.queue handle).send frame with
  | accepted queue =>
    have given := lt_of_open (Queue.closed_of_accepted outcome)
    simp [reply, operate, outcome, Reply.isSent, queue_update_self given,
      Queue.eq_of_accepted outcome]
  | mustWait => simp [reply, operate, outcome, Reply.isSent]
  | refused error => simp [reply, operate, outcome, Reply.isSent]

theorem afterDeeds_append (broker : Broker) (deeds later : List Deed) :
    broker.afterDeeds (deeds ++ later) = (broker.afterDeeds deeds).afterDeeds later := by
  rw [afterDeeds, List.map_append, operateAll_append]
  rfl

theorem sendReplies_append (broker : Broker) (deeds later : List Deed) :
    broker.sendReplies (deeds ++ later) =
      broker.sendReplies deeds ++ (broker.afterDeeds deeds).sendReplies later := by
  induction deeds generalizing broker with
  | nil => rfl
  | cons deed rest inductionHypothesis =>
    rw [List.cons_append, sendReplies, sendReplies, inductionHypothesis, List.append_assoc]
    rfl

theorem sendReplies_of_others (broker : Broker) (operations : List Operation) :
    broker.sendReplies (operations.map (Deed.mk .others)) = [] := by
  induction operations generalizing broker with
  | nil => rfl
  | cons operation rest inductionHypothesis => exact inductionHypothesis _

theorem sendReplies_of_receives (broker : Broker) (handle : QueueHandle) (count : Nat) :
    broker.sendReplies (List.replicate count ⟨.transport, .receive handle⟩) = [] := by
  induction count generalizing broker with
  | zero => rfl
  | succ count inductionHypothesis => exact inductionHypothesis _

end

end Broker

namespace Transport

/-! ## What a call does -/

def sendDeeds (transport : Transport) (telegram : Telegram) : List Deed :=
  match transport.outbound with
  | none => []
  | some handle => [⟨.transport, .send handle telegram.toBytes⟩]

def receiveDeeds (transport : Transport) : List Deed :=
  match transport.inbound with
  | none => []
  | some handle => [⟨.transport, .receive handle⟩]

/-- What a transport does to the queues once both are open: it empties a full inbound queue at the
first attempt, and asks who is present then. -/
def settleDeeds (transport : Transport) (attempt : Nat) (inbound : QueueHandle) : List Deed :=
  match (transport.broker.queue inbound).isFull with
  | .error _ => []
  | .ok isFull =>
    if 1 < attempt ∨ !isFull then []
    else
      List.replicate ((transport.broker.queue inbound).frames.length + 1)
        ⟨.transport, .receive inbound⟩ ++ transport.sendDeeds transport.presenceRequest

def openDeeds (transport : Transport) : ConnectProgress → List Deed
  | .openingOutbound _ => [⟨.transport, .openQueue transport.config.outboundQueue⟩]
  | .openingInbound attempt outbound =>
    ⟨.transport, .openQueue transport.config.inboundQueue⟩ ::
      match transport.openQueue transport.config.inboundQueue with
      | (.error _, _) => []
      | (.ok inbound, opened) =>
        settleDeeds { opened with inbound := some inbound, outbound := some outbound } attempt
          inbound
  | .finished _ => []

def connectDeeds : List Visit → ConnectProgress → Transport → List Deed
  | [], _, _ => []
  | _, .finished _, _ => []
  | visit :: visits, progress, transport =>
    let next := (visit.leave transport).openNext progress
    visit.operations.map (Deed.mk .others) ++ (visit.leave transport).openDeeds progress ++
      connectDeeds visits next.1 next.2

/-! ## Accounts -/

/-- Whether a transport has come from one state to another one by some deeds: these alone have
changed the queues, and its sends have been counted. -/
structure Works (before after : Transport) (deeds : List Deed) : Prop where
  broker : after.broker = before.broker.afterDeeds deeds
  sent : after.counters.framesSent =
    before.counters.framesSent + (before.broker.sendReplies deeds).countP Broker.Reply.isSent
  failed : after.counters.sendFailures =
    before.counters.sendFailures + (before.broker.sendReplies deeds).countP Broker.Reply.isRefused

section
variable {before between after transport : Transport} {deeds later : List Deed}
  {handle : QueueHandle}

theorem Works.trans (first : before.Works between deeds) (second : between.Works after later) :
    before.Works after (deeds ++ later) := by
  obtain ⟨broker, sent, failed⟩ := second
  rw [first.broker] at broker sent failed
  refine ⟨by rw [broker, Broker.afterDeeds_append], ?_, ?_⟩
  · rw [sent, first.sent, Broker.sendReplies_append, List.countP_append, Nat.add_assoc]
  · rw [failed, first.failed, Broker.sendReplies_append, List.countP_append, Nat.add_assoc]

/-- Deeds other than sends of the transport are not counted. -/
theorem Works.of_silent (broker : after.broker = before.broker.afterDeeds deeds)
    (silent : before.broker.sendReplies deeds = [])
    (sent : after.counters.framesSent = before.counters.framesSent)
    (failed : after.counters.sendFailures = before.counters.sendFailures) :
    before.Works after deeds :=
  ⟨broker, by rw [silent]; exact sent, by rw [silent]; exact failed⟩

theorem Works.idle (broker : after.broker = before.broker)
    (sent : after.counters.framesSent = before.counters.framesSent)
    (failed : after.counters.sendFailures = before.counters.sendFailures) :
    before.Works after [] :=
  .of_silent broker rfl sent failed

theorem Works.then_idle (works : before.Works between deeds)
    (broker : after.broker = between.broker)
    (sent : after.counters.framesSent = between.counters.framesSent)
    (failed : after.counters.sendFailures = between.counters.sendFailures) :
    before.Works after deeds := by
  have together := works.trans (Works.idle broker sent failed)
  rwa [List.append_nil] at together

end

/-! ## Sending and receiving -/

inductive Fetches (before : Transport) : Except BusError (Option Telegram) → Transport → Prop where
  | unconnected (apart : before.inbound = none) :
      Fetches before (.error (.connection .inboundNotConnected)) before
  | lost (handle : QueueHandle) (error : BusError) (connected : before.inbound = some handle)
      (refused : (before.broker.queue handle).receive = .error error) :
      Fetches before (.error error) before.disconnect
  | nothing (handle : QueueHandle) (queue : Queue) (connected : before.inbound = some handle)
      (empty : (before.broker.queue handle).receive = .ok (none, queue)) :
      Fetches before (.ok none) before
  | frame (handle : QueueHandle) (frame : Bytes) (queue : Queue) (telegram : Option Telegram)
      (counters : TransportCounters) (journal : Journal) (connected : before.inbound = some handle)
      (taken : (before.broker.queue handle).receive = .ok (some frame, queue))
      (sent : counters.framesSent = before.counters.framesSent)
      (failed : counters.sendFailures = before.counters.sendFailures) :
      Fetches before (.ok telegram)
        { before with broker := before.broker.update handle queue, counters, journal }

section
variable {before after transport : Transport} {telegram : Telegram}
  {result : Except Halt Unit} {received : Except BusError (Option Telegram)}

/-- What becomes of a frame that was taken is counted and said, and that is all. -/
theorem exists_accept (transport : Transport) (frame : Bytes) :
    ∃ telegram counters journal,
      transport.accept frame = (telegram, { transport with counters, journal }) ∧
        counters.framesSent = transport.counters.framesSent ∧
        counters.sendFailures = transport.counters.sendFailures := by
  rw [accept]
  split
  · exact ⟨_, _, _, rfl, rfl, rfl⟩
  · split
    · exact ⟨_, _, _, rfl, rfl, rfl⟩
    · obtain ⟨journal, dumped⟩ := transport.exists_journal_dump "RX" frame
      simp only [dumped]
      split <;> exact ⟨_, _, _, rfl, rfl, rfl⟩

theorem fetches_receive (transport : Transport) :
    transport.Fetches transport.receive.1 transport.receive.2 := by
  cases connected : transport.inbound with
  | none =>
    have apart : transport.receive = (.error (.connection .inboundNotConnected), transport) := by
      simp only [receive, connected]
    rw [apart]
    exact .unconnected connected
  | some handle =>
    cases outcome : (transport.broker.queue handle).receive with
    | error error =>
      have lost : transport.receive = (.error error, transport.disconnect) := by
        simp only [receive, connected, outcome]
      rw [lost]
      exact .lost handle error connected outcome
    | ok answer =>
      obtain ⟨frame, queue⟩ := answer
      cases frame with
      | none =>
        have nothing : transport.receive = (.ok none, transport) := by
          simp only [receive, connected, outcome]
        rw [nothing]
        exact .nothing handle queue connected outcome
      | some frame =>
        let shorter : Transport :=
          { transport with broker := transport.broker.update handle queue }
        have taken : transport.receive = (.ok (shorter.accept frame).1, (shorter.accept frame).2) := by
          simp only [receive, connected, outcome, shorter]
        obtain ⟨telegram, counters, journal, accepted, sent, failed⟩ := shorter.exists_accept frame
        rw [taken, accepted]
        exact .frame handle frame queue telegram counters journal connected outcome sent failed

theorem Sends.works (sends : before.Sends telegram result after) :
    before.Works after (before.sendDeeds telegram) := by
  cases sends with
  | unconnected apart =>
    rw [sendDeeds, apart]
    exact .idle rfl rfl rfl
  | sent handle queue journal connected accepted =>
    rw [sendDeeds, connected]
    refine ⟨?_, ?_, ?_⟩
    · simp only [Broker.afterDeeds, List.map, Broker.operateAll_cons, Broker.operate, accepted]
      rfl
    all_goals simp [Broker.sendReplies, Broker.sendReply?, Broker.reply, accepted,
      Broker.Reply.isSent, Broker.Reply.isRefused]
  | waits handle journal connected full =>
    rw [sendDeeds, connected]
    refine ⟨?_, ?_, ?_⟩
    · simp only [Broker.afterDeeds, List.map, Broker.operateAll_cons, Broker.operate, full]
      rfl
    all_goals simp [Broker.sendReplies, Broker.sendReply?, Broker.reply, full,
      Broker.Reply.isSent, Broker.Reply.isRefused]
  | refused handle journal error connected refused | lost handle journal error connected refused =>
    rw [sendDeeds, connected]
    refine ⟨?_, ?_, ?_⟩
    · simp only [Broker.afterDeeds, List.map, Broker.operateAll_cons, Broker.operate, refused]
      rfl
    all_goals simp [Broker.sendReplies, Broker.sendReply?, Broker.reply, refused,
      Broker.Reply.isSent, Broker.Reply.isRefused]

theorem Fetches.works (fetches : before.Fetches received after) :
    before.Works after before.receiveDeeds := by
  cases fetches with
  | unconnected apart =>
    rw [receiveDeeds, apart]
    exact .idle rfl rfl rfl
  | lost handle error connected refused =>
    rw [receiveDeeds, connected]
    refine .of_silent ?_ rfl rfl rfl
    simp only [Broker.afterDeeds, List.map, Broker.operateAll_cons, Broker.operate, refused]
    rfl
  | nothing handle queue connected empty =>
    rw [receiveDeeds, connected]
    refine .of_silent ?_ rfl rfl rfl
    have unchanged := Queue.eq_of_empty empty
    simp only [Broker.afterDeeds, List.map, Broker.operateAll_cons, Broker.operate, empty, unchanged]
    exact (Broker.update_queue _ _).symm
  | frame handle frame queue telegram counters journal connected taken sent failed =>
    rw [receiveDeeds, connected]
    refine .of_silent ?_ rfl sent failed
    simp only [Broker.afterDeeds, List.map, Broker.operateAll_cons, Broker.operate, taken]
    rfl

end

/-! ## Connecting -/

section
variable {transport : Transport} {attempt : Nat} {inbound : QueueHandle}

theorem works_drain (running : (transport.broker.queue inbound).closed = false)
    (notes : List LogEntry) :
    transport.Works ((transport.drain inbound).2.say notes)
      (List.replicate ((transport.broker.queue inbound).frames.length + 1)
        ⟨.transport, .receive inbound⟩) := by
  refine .of_silent ?_ (Broker.sendReplies_of_receives _ _ _) rfl rfl
  rw [Broker.afterDeeds, List.map_replicate, Broker.operateAll_receives running]
  rfl

theorem works_settle (transport : Transport) (attempt : Nat) (inbound : QueueHandle) :
    transport.Works (transport.settle attempt inbound).2
      (transport.settleDeeds attempt inbound) := by
  rw [settle, settleDeeds]
  cases full : (transport.broker.queue inbound).isFull with
  | error error => exact .idle rfl rfl rfl
  | ok isFull =>
    dsimp only
    split
    · exact .idle rfl rfl rfl
    · have emptied := works_drain (Queue.running_of_isFull full)
        [.info s!"Discarded {(transport.drain inbound).1} stale telegrams"]
      exact emptied.trans (sends_send _ _).works

theorem works_openQueue (transport : Transport) (name : String) :
    transport.Works (transport.openQueue name).2 [⟨.transport, .openQueue name⟩] :=
  .of_silent rfl rfl rfl rfl

theorem Works.failAttempt {before between : Transport} {deeds : List Deed}
    (works : before.Works between deeds) (attempt : Nat) (error : BusError) :
    before.Works (between.failAttempt attempt error).2 deeds := by
  rw [Transport.failAttempt, beginAttempt]
  split <;> exact works.then_idle rfl rfl rfl

theorem works_join (transport : Transport) (attempt : Nat) (inbound outbound : QueueHandle) :
    transport.Works (transport.join attempt inbound outbound).2
      (settleDeeds { transport with inbound := some inbound, outbound := some outbound } attempt
        inbound) := by
  let connected : Transport :=
    { transport with inbound := some inbound, outbound := some outbound }
  have joined : transport.Works connected [] := .idle rfl rfl rfl
  have works := joined.trans (connected.works_settle attempt inbound)
  rw [List.nil_append] at works
  rw [join]
  cases settled : connected.settle attempt inbound with
  | mk result after =>
    rw [settled] at works
    cases result with
    | ok outcome => exact works.then_idle rfl rfl rfl
    | error halt =>
      cases halt with
      | failed error => exact works.failAttempt attempt error
      | waiting => exact works

/-- What happens between two opens is all that the transport does to the queues there. -/
theorem works_openNext (transport : Transport) (progress : ConnectProgress) :
    transport.Works (transport.openNext progress).2 (transport.openDeeds progress) := by
  cases progress with
  | openingOutbound attempt =>
    have works := transport.works_openQueue transport.config.outboundQueue
    rw [openNext, openDeeds]
    cases opened : transport.openQueue transport.config.outboundQueue with
    | mk result next =>
      rw [opened] at works
      cases result with
      | ok outbound => exact works
      | error error => exact works.failAttempt attempt error
  | openingInbound attempt outbound =>
    have works := transport.works_openQueue transport.config.inboundQueue
    rw [openNext, openDeeds]
    cases opened : transport.openQueue transport.config.inboundQueue with
    | mk result next =>
      rw [opened] at works
      cases result with
      | ok inbound => exact works.trans (next.works_join attempt inbound outbound)
      | error error => exact works.failAttempt attempt error
  | finished result => exact .idle rfl rfl rfl

theorem works_leave (transport : Transport) (visit : Visit) :
    transport.Works (visit.leave transport) (visit.operations.map (Deed.mk .others)) := by
  refine .of_silent ?_ (Broker.sendReplies_of_others _ _) rfl rfl
  rw [Broker.afterDeeds, List.map_map]
  exact congrArg transport.broker.operateAll (List.map_id' visit.operations).symm

theorem works_proceedAmid (visits : List Visit) (progress : ConnectProgress)
    (transport : Transport) :
    transport.Works (proceedAmid visits progress transport).2
      (connectDeeds visits progress transport) := by
  induction visits generalizing progress transport with
  | nil => exact .idle rfl rfl rfl
  | cons visit visits inductionHypothesis =>
    have opened := (transport.works_leave visit).trans (works_openNext (visit.leave transport) progress)
    cases progress with
    | finished result => exact .idle rfl rfl rfl
    | openingOutbound attempt => exact opened.trans (inductionHypothesis _ _)
    | openingInbound attempt outbound => exact opened.trans (inductionHypothesis _ _)

end

end Transport

end HeatingBus
