import HeatingBus.Proofs.Transport.Attempts

/-!
# Connecting

What a call that connects does to the queues while others are at work on them, and what its outcome
tells of it. If the boiler can be asked at the first attempt, the outcome says how many stale frames
were discarded. If the request fails, a later attempt goes on as if nothing had been discarded: the
frames are counted, but the outcome tells of none, and nobody is asked.
-/

namespace HeatingBus

/-! ## Calls amid changes -/

/-- What others do before an open: they work on the queues, and leave the transport running or
not. -/
structure Visit where
  operations : List Broker.Operation
  isRunning : Bool

def Visit.leave (visit : Visit) (transport : Transport) : Transport :=
  { transport with
    broker := transport.broker.operateAll visit.operations
    isRunning := visit.isRunning }

namespace Transport

/-- Goes on with a call amid some visits, one before each open. -/
def proceedAmid : List Visit → ConnectProgress → Transport → ConnectProgress × Transport
  | [], progress, transport => (progress, transport)
  | _, .finished result, transport => (.finished result, transport)
  | visit :: visits, progress, transport =>
    let next := (visit.leave transport).openNext progress
    proceedAmid visits next.1 next.2

/-- What a call amid some visits has taken from the queues and put into them, open by open. -/
inductive Accounts : List Visit → ConnectProgress → Transport → List Bytes → List Bytes → Prop where
  | none (progress : ConnectProgress) (transport : Transport) : Accounts [] progress transport [] []
  | finished (visits : List Visit) (result : Except Halt ConnectOutcome) (transport : Transport) :
      Accounts visits (.finished result) transport [] []
  | opens (visit : Visit) (visits : List Visit) (progress : ConnectProgress)
      (transport : Transport) (attempt : Nat) (removed appended later laterAppended : List Bytes)
      (opening : progress.IsIn attempt)
      (exchanges : (visit.leave transport).broker.Exchanges
        ((visit.leave transport).openNext progress).2.broker transport.config.inboundQueue
        transport.config.outboundQueue removed appended)
      (rest : Accounts visits ((visit.leave transport).openNext progress).1
        ((visit.leave transport).openNext progress).2 later laterAppended) :
      Accounts (visit :: visits) progress transport (removed ++ later) (appended ++ laterAppended)

/-! ## Calls -/

section
variable {visit : Visit} {visits : List Visit} {progress : ConnectProgress}
  {transport : Transport} {attempt : Nat} {removed appended taken put : List Bytes}

theorem FindsQueues.leave {progress : ConnectProgress} (finds : transport.FindsQueues progress)
    (visit : Visit) : (visit.leave transport).FindsQueues progress := by
  have evolves := transport.broker.evolves_operateAll visit.operations
  exact ⟨evolves.sound finds.sound, finds.distinct,
    fun attempt outbound opening => evolves.keeps _ _ (finds.opened attempt outbound opening)⟩

theorem proceedAmid_finished (visits : List Visit) (result : Except Halt ConnectOutcome)
    (transport : Transport) :
    proceedAmid visits (.finished result) transport = (.finished result, transport) := by
  cases visits <;> rfl

/-- A call can be accounted for in one way only. -/
theorem Accounts.eq (accounts : Accounts visits progress transport removed appended)
    (accountsToo : Accounts visits progress transport taken put) :
    taken = removed ∧ put = appended := by
  induction accounts generalizing taken put with
  | none => cases accountsToo with
    | none => exact ⟨rfl, rfl⟩
    | finished => exact ⟨rfl, rfl⟩
  | finished => cases accountsToo with
    | none => exact ⟨rfl, rfl⟩
    | finished => exact ⟨rfl, rfl⟩
    | opens _ _ _ _ _ _ _ _ _ opening => cases opening
  | opens visit visits progress transport attempt _ _ _ _ opening exchanges _ inductionHypothesis =>
    cases accountsToo with
    | finished => cases opening
    | opens _ _ _ _ _ _ _ _ _ _ exchangesToo rest =>
      obtain ⟨rfl, rfl⟩ := exchanges.eq exchangesToo
      obtain ⟨rfl, rfl⟩ := inductionHypothesis rest
      exact ⟨rfl, rfl⟩

end

end Transport

/-! ## Outcomes -/

/-- Whether the outcome of a call tells what has become of stale frames: it says how many frames
were taken and counted as discarded, and if there were any, the boiler has been asked who is
present. -/
structure ConnectOutcome.Tells (outcome : ConnectOutcome) (before after : Transport)
    (removed appended : List Bytes) : Prop where
  drained : removed.length = outcome.drained
  counted : after.counters.framesDrained = before.counters.framesDrained + outcome.drained
  asked : removed ≠ [] → outcome.bootstrapped = true ∧
    appended = [before.presenceRequest.toBytes] ∧ after.HasAsked before.presenceRequest.toBytes
  quiet : removed = [] → appended = []

namespace Transport

section
variable {transport after : Transport} {visits : List Visit} {begun : ConnectProgress × Transport}
  {outcome : ConnectOutcome} {removed appended : List Bytes}

end

end Transport

end HeatingBus
