import HeatingBus.Proofs.Transport.Deeds

/-!
# The connection of a transport

A transport under any sequence of calls, while others are at work on the queues. It is connected to
both queues or to neither, and to both only while it is running. Once it has lost a queue it leaves
all queues alone until it has connected anew, and every frame that it has counted as sent is one that
it has put into a queue.
-/

namespace HeatingBus

/-- Whether a call that has come so far holds both queues: it has connected, or it waits for room to
ask who is present. -/
def ConnectProgress.isLinked : ConnectProgress → Bool
  | .finished (.ok _) | .finished (.error .waiting) => true
  | _ => false

theorem ConnectProgress.exists_finished {progress : ConnectProgress}
    (linked : progress.isLinked = true) : ∃ result, progress = .finished result := by
  unfold isLinked at linked
  split at linked
  · exact ⟨_, rfl⟩
  · exact ⟨_, rfl⟩
  · cases linked

/-- The counters after a send over a connection: a frame more was sent or a send more has failed,
and neither as long as the send waits. -/
def TransportCounters.tallySend (counters : TransportCounters) :
    Except Halt Unit → TransportCounters
  | .ok () => { counters with framesSent := counters.framesSent + 1 }
  | .error (.failed _) => { counters with sendFailures := counters.sendFailures + 1 }
  | .error .waiting => counters

def Halt.failure? {Result : Type} : Except Halt Result → Option BusError
  | .error (.failed error) => some error
  | _ => none

theorem Halt.eq_of_failure? {Result : Type} {result : Except Halt Result} {error : BusError}
    (failed : failure? result = some error) : result = .error (.failed error) := by
  unfold failure? at failed
  split at failed <;> cases failed
  rfl

namespace Transport

/-! ## Connections -/

/-- Whether a transport is connected to both queues or to neither, and to both only while it is
running. -/
structure IsPaired (transport : Transport) : Prop where
  both : transport.inbound.isSome = transport.outbound.isSome
  running : transport.inbound.isSome = true → transport.isRunning = true

structure IsDisconnected (transport : Transport) : Prop where
  inbound : transport.inbound = none
  outbound : transport.outbound = none

structure KeepsConnection (before after : Transport) : Prop where
  inbound : after.inbound = before.inbound
  outbound : after.outbound = before.outbound
  isRunning : after.isRunning = before.isRunning

section
variable {before between after transport : Transport} {telegram : Telegram} {error : BusError}
  {result : Except Halt Unit} {received : Except BusError (Option Telegram)}

theorem IsDisconnected.isPaired (apart : transport.IsDisconnected) : transport.IsPaired := by
  obtain ⟨inbound, outbound⟩ := apart
  refine ⟨by rw [inbound, outbound], fun connected => ?_⟩
  rw [inbound] at connected
  cases connected

theorem KeepsConnection.trans (first : before.KeepsConnection between)
    (second : between.KeepsConnection after) : before.KeepsConnection after :=
  ⟨second.inbound.trans first.inbound, second.outbound.trans first.outbound,
    second.isRunning.trans first.isRunning⟩

theorem KeepsConnection.isPaired (keeps : before.KeepsConnection after)
    (paired : before.IsPaired) : after.IsPaired := by
  obtain ⟨inbound, outbound, isRunning⟩ := keeps
  refine ⟨by rw [inbound, outbound, paired.both], fun connected => ?_⟩
  rw [isRunning]
  exact paired.running (inbound ▸ connected)

theorem KeepsConnection.isDisconnected (keeps : before.KeepsConnection after)
    (apart : before.IsDisconnected) : after.IsDisconnected :=
  ⟨keeps.inbound.trans apart.inbound, keeps.outbound.trans apart.outbound⟩

theorem isDisconnected_disconnect (transport : Transport) : transport.disconnect.IsDisconnected :=
  ⟨rfl, rfl⟩

/-- Without one of its queues a transport has neither. -/
theorem IsPaired.isDisconnected (paired : transport.IsPaired)
    (lost : transport.inbound = none ∨ transport.outbound = none) : transport.IsDisconnected := by
  have both := paired.both
  cases inbound : transport.inbound <;> cases outbound : transport.outbound <;>
    simp_all [IsDisconnected.mk]

/-! ## Sending and receiving -/

/-- A send gives up the connection if the queue fails, and keeps it otherwise. -/
theorem Sends.connection (sends : before.Sends telegram result after) (paired : before.IsPaired) :
    match result with
    | .error (.failed error) =>
      if isFrameError error then before.KeepsConnection after else after.IsDisconnected
    | _ => before.KeepsConnection after := by
  cases sends with
  | unconnected apart => exact paired.isDisconnected (.inr apart)
  | sent => exact ⟨rfl, rfl, rfl⟩
  | waits => exact ⟨rfl, rfl, rfl⟩
  | refused handle journal error _ _ frame => simp only [frame, if_true]; exact ⟨rfl, rfl, rfl⟩
  | lost handle journal error _ _ queue => simp only [queue]; exact ⟨rfl, rfl⟩

theorem Sends.isPaired (sends : before.Sends telegram result after) (paired : before.IsPaired) :
    after.IsPaired := by
  have connection := sends.connection paired
  split at connection
  · split at connection
    · exact connection.isPaired paired
    · exact connection.isPaired
  · exact connection.isPaired paired

/-- A receive that fails gives up the connection, and any other keeps it. -/
theorem Fetches.connection (fetches : before.Fetches received after) (paired : before.IsPaired) :
    match received with
    | .error _ => after.IsDisconnected
    | .ok _ => before.KeepsConnection after := by
  cases fetches with
  | unconnected apart => exact paired.isDisconnected (.inl apart)
  | lost => exact before.isDisconnected_disconnect
  | nothing => exact ⟨rfl, rfl, rfl⟩
  | frame => exact ⟨rfl, rfl, rfl⟩

theorem Fetches.isPaired (fetches : before.Fetches received after) (paired : before.IsPaired) :
    after.IsPaired := by
  have connection := fetches.connection paired
  split at connection
  · exact connection.isPaired
  · exact connection.isPaired paired

/-- Without a connection nothing is sent, and nothing else happens either. -/
theorem IsDisconnected.send (apart : transport.IsDisconnected) (telegram : Telegram) :
    transport.send telegram = (.error (.failed (.connection .outboundNotConnected)), transport) := by
  rw [Transport.send, apart.outbound]

/-- Without a connection nothing is received, and nothing else happens either. -/
theorem IsDisconnected.receive (apart : transport.IsDisconnected) :
    transport.receive = (.error (.connection .inboundNotConnected), transport) := by
  rw [Transport.receive, apart.inbound]

/-- While a transport is connected, each of its sends that comes to an end is counted once. -/
theorem Sends.counters (sends : before.Sends telegram result after)
    (connected : before.isConnected = true) :
    after.counters = before.counters.tallySend result := by
  cases sends with
  | unconnected apart => simp [isConnected, apart] at connected
  | sent | waits | refused | lost => rfl

/-- A send that does not fail keeps the connection. -/
theorem Sends.keepsConnection (sends : before.Sends telegram result after)
    (unfailed : ∀ error, result ≠ .error (.failed error)) : before.KeepsConnection after := by
  cases sends with
  | sent | waits => exact ⟨rfl, rfl, rfl⟩
  | unconnected | refused | lost => exact absurd rfl (unfailed _)

theorem Sends.isRunning (sends : before.Sends telegram result after) :
    after.isRunning = before.isRunning := by
  cases sends <;> rfl

end

/-! ## Connecting -/

inductive Joins (before : Transport) : ConnectProgress → Transport → Prop where
  | goesOn (attempt : Nat) (outbound : QueueHandle) (after : Transport)
      (keeps : before.KeepsConnection after) : Joins before (.openingInbound attempt outbound) after
  | fails (next : ConnectProgress) (after : Transport) (unlinked : next.isLinked = false)
      (apart : after.IsDisconnected) : Joins before next after
  | links (result : Except Halt ConnectOutcome) (after : Transport)
      (linked : (ConnectProgress.finished result).isLinked = true)
      (inbound : after.inbound.isSome = true) (outbound : after.outbound.isSome = true)
      (isRunning : after.isRunning = before.isRunning) : Joins before (.finished result) after

section
variable {before between after transport : Transport} {next progress : ConnectProgress} {attempt : Nat}
  {inbound outbound : QueueHandle} {begun : ConnectProgress × Transport}
  {rounds : List (List Broker.Operation)}

/-- Once both queues are open, they stay connected unless the attempt fails. -/
theorem keepsConnection_settle (transport : Transport) (attempt : Nat) (inbound : QueueHandle)
    (unfailed : ∀ error, (transport.settle attempt inbound).1 ≠ .error (.failed error)) :
    transport.KeepsConnection (transport.settle attempt inbound).2 := by
  rw [settle] at unfailed ⊢
  cases full : (transport.broker.queue inbound).isFull with
  | error error =>
    rw [full] at unfailed
    exact absurd rfl (unfailed error)
  | ok isFull =>
    simp only [full] at unfailed ⊢
    by_cases later : 1 < attempt ∨ (!isFull) = true
    · rw [if_pos later]
      exact ⟨rfl, rfl, rfl⟩
    · rw [if_neg later] at unfailed ⊢
      have keeps := (sends_send ((transport.drain inbound).2.say _) _).keepsConnection
        fun error failed => unfailed error (by dsimp only; rw [failed]; rfl)
      exact ⟨keeps.inbound, keeps.outbound, keeps.isRunning⟩

theorem isRunning_settle (transport : Transport) (attempt : Nat) (inbound : QueueHandle) :
    (transport.settle attempt inbound).2.isRunning = transport.isRunning := by
  rw [settle]
  split
  · rfl
  · split
    · rfl
    · exact (sends_send _ _).isRunning

theorem keepsConnection_openQueue (transport : Transport) (name : String) :
    transport.KeepsConnection (transport.openQueue name).2 :=
  ⟨rfl, rfl, rfl⟩

/-- What an open comes to does not hang on what came before it as long as that kept the
connection. -/
theorem Joins.after_keeps (joins : between.Joins next after)
    (keeps : before.KeepsConnection between) : before.Joins next after := by
  cases joins with
  | goesOn attempt outbound _ later => exact .goesOn _ _ _ (keeps.trans later)
  | fails _ _ unlinked apart => exact .fails _ _ unlinked apart
  | links _ _ linked inbound outbound isRunning =>
    exact .links _ _ linked inbound outbound (isRunning.trans keeps.isRunning)

theorem joins_failAttempt (attempt : Nat) (error : BusError) :
    before.Joins (transport.failAttempt attempt error).1 (transport.failAttempt attempt error).2 := by
  rw [failAttempt, beginAttempt]
  split <;> exact .fails _ _ rfl ⟨rfl, rfl⟩

theorem joins_join (transport : Transport) (attempt : Nat) (inbound outbound : QueueHandle) :
    transport.Joins (transport.join attempt inbound outbound).1
      (transport.join attempt inbound outbound).2 := by
  let connected : Transport :=
    { transport with inbound := some inbound, outbound := some outbound }
  have isRunning := connected.isRunning_settle attempt inbound
  have keeps := connected.keepsConnection_settle attempt inbound
  rw [join]
  cases settled : connected.settle attempt inbound with
  | mk result after =>
    rw [settled] at keeps isRunning
    cases result with
    | ok outcome =>
      have keeps := keeps fun error failed => by cases failed
      exact .links _ _ rfl (congrArg Option.isSome keeps.inbound)
        (congrArg Option.isSome keeps.outbound) isRunning
    | error halt =>
      cases halt with
      | failed error => exact joins_failAttempt attempt error
      | waiting =>
        have keeps := keeps fun error failed => by cases failed
        exact .links _ _ rfl (congrArg Option.isSome keeps.inbound)
          (congrArg Option.isSome keeps.outbound) isRunning

theorem joins_openNext (opening : progress.IsIn attempt) :
    transport.Joins (transport.openNext progress).1 (transport.openNext progress).2 := by
  cases opening with
  | outbound =>
    rw [openNext]
    cases opened : transport.openQueue transport.config.outboundQueue with
    | mk result next =>
      have keeps := transport.keepsConnection_openQueue transport.config.outboundQueue
      rw [opened] at keeps
      cases result with
      | ok outbound => exact .goesOn attempt outbound next keeps
      | error error => exact joins_failAttempt attempt error
  | inbound _ outbound =>
    rw [openNext]
    cases opened : transport.openQueue transport.config.inboundQueue with
    | mk result next =>
      have keeps := transport.keepsConnection_openQueue transport.config.inboundQueue
      rw [opened] at keeps
      cases result with
      | ok inbound => exact (next.joins_join attempt inbound outbound).after_keeps keeps
      | error error => exact joins_failAttempt attempt error

/-- An open amid which the transport keeps running leaves it paired. -/
theorem Joins.isPaired (joins : before.Joins next after) (paired : before.IsPaired)
    (running : before.isRunning = true) : after.IsPaired := by
  cases joins with
  | goesOn attempt outbound _ keeps => exact keeps.isPaired paired
  | fails _ _ _ apart => exact apart.isPaired
  | links _ _ _ inbound outbound isRunning =>
    exact ⟨inbound.trans outbound.symm, fun _ => isRunning.trans running⟩

theorem Joins.isDisconnected (joins : before.Joins next after) (apart : before.IsDisconnected)
    (unlinked : next.isLinked = false) : after.IsDisconnected := by
  cases joins with
  | goesOn attempt outbound _ keeps => exact keeps.isDisconnected apart
  | fails _ _ _ apart => exact apart
  | links _ _ linked =>
    rw [linked] at unlinked
    cases unlinked

theorem isPaired_leave (paired : transport.IsPaired) (operations : List Broker.Operation) :
    ((Visit.mk operations true).leave transport).IsPaired :=
  ⟨paired.both, fun _ => rfl⟩

end

/-! ## Calls -/

inductive Call where
  | start (link : String)
  /-- The queues are opened, and before each open others work on them. -/
  | connect (rounds : List (List Broker.Operation))
  | reconnect (rounds : List (List Broker.Operation))
  | send (telegram : Telegram)
  | receive
  | close
  /-- Others work on the queues between two calls. -/
  | others (operations : List Broker.Operation)

def pursue (begun : ConnectProgress × Transport) (rounds : List (List Broker.Operation)) :
    ConnectProgress × Transport :=
  proceedAmid (rounds.map fun operations => ⟨operations, true⟩) begun.1 begun.2

def perform (transport : Transport) : Call → Transport
  | .start link => (transport.start link).2
  | .connect rounds => (pursue transport.beginConnect rounds).2
  | .reconnect rounds => (pursue transport.beginReconnect rounds).2
  | .send telegram => (transport.send telegram).2
  | .receive => transport.receive.2
  | .close => transport.close.2
  | .others operations => { transport with broker := transport.broker.operateAll operations }

def run (transport : Transport) (calls : List Call) : Transport := calls.foldl perform transport

def isLinkedBy (transport : Transport) : Call → Bool
  | .connect rounds => (pursue transport.beginConnect rounds).1.isLinked
  | .reconnect rounds => (pursue transport.beginReconnect rounds).1.isLinked
  | _ => false

def StaysUnlinked (transport : Transport) : List Call → Prop
  | [] => True
  | call :: calls => transport.isLinkedBy call = false ∧ (transport.perform call).StaysUnlinked calls

def deeds (transport : Transport) : Call → List Deed
  | .connect rounds =>
    connectDeeds (rounds.map fun operations => ⟨operations, true⟩) transport.beginConnect.1
      transport.beginConnect.2
  | .reconnect rounds =>
    connectDeeds (rounds.map fun operations => ⟨operations, true⟩) transport.beginReconnect.1
      transport.beginReconnect.2
  | .send telegram => transport.sendDeeds telegram
  | .receive => transport.receiveDeeds
  | .start _ | .close => []
  | .others operations => operations.map (Deed.mk .others)

def runDeeds (transport : Transport) : List Call → List Deed
  | [] => []
  | call :: calls => transport.deeds call ++ (transport.perform call).runDeeds calls

section
variable {transport : Transport} {begun : ConnectProgress × Transport}
  {rounds : List (List Broker.Operation)} {call : Call} {calls : List Call}

theorem isPaired_pursue (paired : begun.2.IsPaired) : (pursue begun rounds).2.IsPaired := by
  induction rounds generalizing begun with
  | nil => exact paired
  | cons operations rounds inductionHypothesis =>
    obtain ⟨progress, transport⟩ := begun
    -- The transport is left running until the open, so it is running if the open connects it.
    have joined : ∀ attempt, progress.IsIn attempt →
        (((Visit.mk operations true).leave transport).openNext progress).2.IsPaired :=
      fun attempt opening =>
        (joins_openNext opening).isPaired (isPaired_leave paired operations) rfl
    cases progress with
    | finished result => exact paired
    | openingOutbound attempt => exact inductionHypothesis (joined attempt (.outbound attempt))
    | openingInbound attempt outbound =>
      exact inductionHypothesis (joined attempt (.inbound attempt outbound))

/-- A call that does not connect leaves a transport disconnected. -/
theorem isDisconnected_pursue (apart : begun.2.IsDisconnected)
    (unlinked : (pursue begun rounds).1.isLinked = false) :
    (pursue begun rounds).2.IsDisconnected := by
  induction rounds generalizing begun with
  | nil => exact apart
  | cons operations rounds inductionHypothesis =>
    obtain ⟨progress, transport⟩ := begun
    have joined : ∀ attempt, progress.IsIn attempt →
        (pursue (((Visit.mk operations true).leave transport).openNext progress) rounds).1.isLinked =
          false →
        (((Visit.mk operations true).leave transport).openNext progress).2.IsDisconnected := by
      intro attempt opening unlinked
      refine (joins_openNext opening).isDisconnected ⟨apart.inbound, apart.outbound⟩ ?_
      -- A call that has connected is finished, and would be so at its end.
      refine Bool.eq_false_iff.mpr fun linked => ?_
      obtain ⟨result, finished⟩ := ConnectProgress.exists_finished linked
      rw [pursue, finished, proceedAmid_finished, ← finished, linked] at unlinked
      cases unlinked
    cases progress with
    | finished result => exact apart
    | openingOutbound attempt =>
      exact inductionHypothesis (joined attempt (.outbound attempt) unlinked) unlinked
    | openingInbound attempt outbound =>
      exact inductionHypothesis (joined attempt (.inbound attempt outbound) unlinked) unlinked

theorem keepsConnection_beginConnect (transport : Transport) :
    transport.KeepsConnection transport.beginConnect.2 := by
  rw [beginConnect, beginAttempt]
  split <;> exact ⟨rfl, rfl, rfl⟩

theorem isDisconnected_beginReconnect (transport : Transport) :
    transport.beginReconnect.2.IsDisconnected :=
  (keepsConnection_beginConnect _).isDisconnected ⟨rfl, rfl⟩

theorem connection_start (transport : Transport) (link : String) :
    ((transport.start link).2.inbound = transport.inbound ∧
      (transport.start link).2.outbound = transport.outbound) ∧
    (transport.isRunning = true → (transport.start link).2.isRunning = true) := by
  rw [start]
  dsimp only
  split
  · exact ⟨⟨rfl, rfl⟩, fun _ => rfl⟩
  · exact ⟨⟨rfl, rfl⟩, fun running => running⟩

theorem isPaired_perform (paired : transport.IsPaired) (call : Call) :
    (transport.perform call).IsPaired := by
  cases call with
  | start link =>
    obtain ⟨⟨inbound, outbound⟩, isRunning⟩ := transport.connection_start link
    refine ⟨by rw [perform, inbound, outbound, paired.both], fun connected => ?_⟩
    rw [perform, inbound] at connected
    exact isRunning (paired.running connected)
  | connect rounds => exact isPaired_pursue ((keepsConnection_beginConnect _).isPaired paired)
  | reconnect rounds => exact isPaired_pursue (isDisconnected_beginReconnect _).isPaired
  | send telegram => exact (sends_send _ _).isPaired paired
  | receive => exact (fetches_receive _).isPaired paired
  | close => exact IsDisconnected.isPaired ⟨rfl, rfl⟩
  | others operations => exact ⟨paired.both, paired.running⟩

theorem isDisconnected_perform (apart : transport.IsDisconnected)
    (unlinked : transport.isLinkedBy call = false) : (transport.perform call).IsDisconnected := by
  cases call with
  | start link =>
    obtain ⟨⟨inbound, outbound⟩, _⟩ := transport.connection_start link
    exact ⟨inbound.trans apart.inbound, outbound.trans apart.outbound⟩
  | connect rounds =>
    exact isDisconnected_pursue ((keepsConnection_beginConnect _).isDisconnected apart) unlinked
  | reconnect rounds => exact isDisconnected_pursue (isDisconnected_beginReconnect _) unlinked
  | send telegram =>
    rw [perform, apart.send]
    exact apart
  | receive =>
    rw [perform, apart.receive]
    exact apart
  | close => exact ⟨rfl, rfl⟩
  | others operations => exact ⟨apart.inbound, apart.outbound⟩

theorem works_pursue {deeds : List Deed} (begins : transport.Works begun.2 deeds) :
    transport.Works (pursue begun rounds).2
      (deeds ++ connectDeeds (rounds.map fun operations => ⟨operations, true⟩) begun.1 begun.2) :=
  begins.trans (works_proceedAmid _ _ _)

theorem works_beginConnect (transport : Transport) : transport.Works transport.beginConnect.2 [] := by
  rw [beginConnect, beginAttempt]
  split <;> exact .idle rfl rfl rfl

theorem works_beginReconnect (transport : Transport) :
    transport.Works transport.beginReconnect.2 [] := by
  have counted : transport.Works (transport.disconnect.count fun counters =>
      { counters with reconnects := counters.reconnects + 1 }) [] := .idle rfl rfl rfl
  exact counted.trans (works_beginConnect _)

/-- A call changes the queues by its deeds alone, and its sends are counted. -/
theorem works_perform (transport : Transport) (call : Call) :
    transport.Works (transport.perform call) (transport.deeds call) := by
  cases call with
  | start link =>
    rw [perform, start, deeds]
    dsimp only
    split <;> exact .idle rfl rfl rfl
  | connect rounds => exact works_pursue transport.works_beginConnect
  | reconnect rounds => exact works_pursue transport.works_beginReconnect
  | send telegram => exact (sends_send _ _).works
  | receive => exact (fetches_receive _).works
  | close => exact .idle rfl rfl rfl
  | others operations => exact transport.works_leave ⟨operations, transport.isRunning⟩

/-! ## Runs -/

theorem isPaired_run (paired : transport.IsPaired) : (transport.run calls).IsPaired := by
  induction calls generalizing transport with
  | nil => exact paired
  | cons call calls inductionHypothesis =>
    exact inductionHypothesis (isPaired_perform paired call)

theorem isDisconnected_run (apart : transport.IsDisconnected)
    (unlinked : transport.StaysUnlinked calls) : (transport.run calls).IsDisconnected := by
  induction calls generalizing transport with
  | nil => exact apart
  | cons call calls inductionHypothesis =>
    exact inductionHypothesis (isDisconnected_perform apart unlinked.1) unlinked.2

theorem works_run (transport : Transport) (calls : List Call) :
    transport.Works (transport.run calls) (transport.runDeeds calls) := by
  induction calls generalizing transport with
  | nil => exact .idle rfl rfl rfl
  | cons call calls inductionHypothesis =>
    exact (transport.works_perform call).trans (inductionHypothesis _)

end

/-- What holds of a transport whatever is done with it and around it. It is connected to both queues
or to neither, and only while it is running. A failure to receive gives up the connection, and so
does a failure to send that is not about the frame; from then on, until a call connects it anew,
every send and receive fails for want of a connection and changes nothing at all. Once it is closed
it is not running and has no connection. While it is connected, each send that comes to an end is
counted once, as a frame sent or as a failure. All that becomes of the queues comes of its deeds and
of those of others, and it has counted as many frames as the queues have accepted from it, which are
those that have been put behind the others in their queues. -/
theorem connection_run (config : EngineConfig) (driver : BusDriver) (broker : Broker)
    (calls : List Call) :
    let fresh := Transport.new config driver broker
    let transport := fresh.run calls
    transport.IsPaired ∧
    (∀ error after, transport.receive = (.error error, after) → after.IsDisconnected) ∧
    (∀ telegram error after, transport.send telegram = (.error (.failed error), after) →
      if isFrameError error then transport.KeepsConnection after else after.IsDisconnected) ∧
    (transport.IsDisconnected → ∀ later, transport.StaysUnlinked later →
      let after := transport.run later
      (∀ telegram, after.send telegram =
        (.error (.failed (.connection .outboundNotConnected)), after)) ∧
      after.receive = (.error (.connection .inboundNotConnected), after)) ∧
    (transport.close.2.IsDisconnected ∧ transport.close.2.isRunning = false) ∧
    (transport.isConnected = true → ∀ telegram,
      (transport.send telegram).2.counters =
        transport.counters.tallySend (transport.send telegram).1) ∧
    transport.broker = broker.afterDeeds (fresh.runDeeds calls) ∧
    transport.counters.framesSent =
      (broker.sendReplies (fresh.runDeeds calls)).countP Broker.Reply.isSent ∧
    transport.counters.sendFailures =
      (broker.sendReplies (fresh.runDeeds calls)).countP Broker.Reply.isRefused ∧
    ∀ (queues : Broker) handle frame,
      (queues.reply (.send handle frame)).isSent = true ↔
        ((queues.operate (.send handle frame)).queue handle).frames =
          (queues.queue handle).frames ++ [frame] := by
  intro fresh transport
  have apart : fresh.IsDisconnected := ⟨rfl, rfl⟩
  have paired : transport.IsPaired := isPaired_run apart.isPaired
  obtain ⟨deeds, sent, failed⟩ := fresh.works_run calls
  refine ⟨paired, ?_, ?_, fun apart later unlinked => ?_, ⟨⟨rfl, rfl⟩, rfl⟩,
    fun connected telegram => ?_, deeds, sent.trans (Nat.zero_add _),
    failed.trans (Nat.zero_add _), fun _ _ _ => Broker.isSent_reply_iff⟩
  · intro error after received
    have fetches := transport.fetches_receive
    rw [received] at fetches
    exact fetches.connection paired
  · intro telegram error after outcome
    have sends := transport.sends_send telegram
    rw [outcome] at sends
    exact sends.connection paired
  · have apart := isDisconnected_run apart unlinked
    exact ⟨apart.send, apart.receive⟩
  · exact (transport.sends_send telegram).counters connected

/-- The outbound queue is closed after a telegram was sent. The next telegram is not sent, and the
inbound queue is given up too, although it is open and holds a frame. -/
theorem connection_of_closed_queue :
    let broker := Broker.empty.operateAll
      [.create "/ems_bus_rx" 8 32, .create "/ems_bus_tx" 8 32, .send 0 [1, 2]]
    let fresh := Transport.new {} (.outside fun _ => true) broker
    let telegram := fresh.presenceRequest
    let calls : List Call :=
      [.start "/dev/ttyUSB0", .connect [[], []], .send telegram, .others [.shut 1]]
    let transport := fresh.run calls
    let lost := transport.send telegram
    transport.isConnected = true ∧ transport.counters.framesSent = 1 ∧
      (broker.sendReplies (fresh.runDeeds calls)).countP Broker.Reply.isSent = 1 ∧
      lost.2.counters = { transport.counters with sendFailures := 1 } ∧ lost.2.IsDisconnected ∧
      let after := lost.2.run [.others [.send 0 [3]], .close]
      after.receive = (.error (.connection .inboundNotConnected), after) := by
  intro broker fresh telegram calls transport lost
  have connected : transport.isConnected = true := by decide +kernel
  have sent : transport.counters.framesSent = 1 := by decide +kernel
  have counted : transport.counters.sendFailures = 0 := by decide +kernel
  have refused : lost.1 = .error (.failed (.io (.queueClosed "/ems_bus_tx"))) :=
    Halt.eq_of_failure? (by decide +kernel)
  have outcome : lost = (.error (.failed (.io (.queueClosed "/ems_bus_tx"))), lost.2) := by
    rw [← refused]
  obtain ⟨_, _, losing, _, _, counts, _, accepted, _⟩ :=
    connection_run {} (.outside fun _ => true) broker calls
  obtain ⟨_, _, _, stays, _⟩ :=
    connection_run {} (.outside fun _ => true) broker (calls ++ [.send telegram])
  have same : (Transport.new {} (.outside fun _ => true) broker).run (calls ++ [.send telegram]) =
      lost.2 := List.foldl_append
  rw [same] at stays
  have apart : lost.2.IsDisconnected := losing telegram _ _ outcome
  have tally : lost.2.counters = transport.counters.tallySend lost.1 := counts connected telegram
  refine ⟨connected, sent, accepted.symm.trans sent, ?_, apart, ?_⟩
  · rw [tally, refused, TransportCounters.tallySend, counted]
  · exact (stays apart [.others [.send 0 [3]], .close] ⟨rfl, rfl, trivial⟩).2

end Transport

end HeatingBus
