import HeatingBus.Engine.Dispatch
import HeatingBus.Engine.Write

/-!
# Requests

What an engine says and sends concerns its transport alone. Requests that follow from a telegram
never fail: what goes wrong with one of them is reported, and the next one is made.
-/

namespace HeatingBus

namespace Engine

theorem exists_transport_readRequest (engine : Engine) (address : BusAddress)
    (identification : UInt8) :
    ∃ transport, (engine.readRequest address identification).2 = { engine with transport } :=
  ⟨_, rfl⟩

theorem exists_transport_request (engine : Engine) (followUps : List FollowUp) :
    ∃ transport, (engine.request followUps).2 = { engine with transport } := by
  induction followUps generalizing engine with
  | nil => exact ⟨engine.transport, rfl⟩
  | cons followUp rest inductionHypothesis =>
    obtain ⟨transport, sent⟩ := exists_transport_readRequest (engine.say followUp.announcement)
      followUp.address followUp.identification
    rw [request]
    -- Whatever becomes of the first request, the next one finds another transport at most.
    split
    · rename_i next answered
      rw [answered] at sent
      obtain rfl : next = { engine with transport } := sent
      exact inductionHypothesis _
    · rename_i error next answered
      rw [answered] at sent
      obtain rfl : next = { engine with transport } := sent
      exact inductionHypothesis _
    · rename_i next answered
      rw [answered] at sent
      exact ⟨transport, sent⟩

theorem registry_request (engine : Engine) (followUps : List FollowUp) :
    (engine.request followUps).2.registry = engine.registry := by
  obtain ⟨transport, requested⟩ := exists_transport_request engine followUps
  rw [requested]

/-- The failure of a request does not make the requests fail that it is one of. -/
theorem request_ne_failed (engine : Engine) (followUps : List FollowUp) (error : BusError) :
    (engine.request followUps).1 ≠ .error (.failed error) := by
  induction followUps generalizing engine with
  | nil => simp [request]
  | cons followUp rest inductionHypothesis =>
    rw [request]
    split
    · exact inductionHypothesis _
    · exact inductionHypothesis _
    · simp

section
variable {engine after : Engine} {followUps : List FollowUp}

theorem registry_of_request {result : Except Halt Unit}
    (requested : engine.request followUps = (result, after)) :
    after.registry = engine.registry := by
  rw [← registry_request engine followUps, requested]

theorem eq_waiting_of_request {halt : Halt}
    (requested : engine.request followUps = (.error halt, after)) : halt = .waiting := by
  cases halt with
  | waiting => rfl
  | failed error => exact absurd (congrArg Prod.fst requested) (request_ne_failed _ _ error)

end

end Engine

end HeatingBus
