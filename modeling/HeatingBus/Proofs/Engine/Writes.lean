import HeatingBus.Proofs.Engine.Handling
import HeatingBus.Proofs.Registry.Slots

/-!
# Writes

What a write makes of the registry. A write that gets as far as to the message that it is about
mentions it, whether its value can be sent or not; any other write leaves the registry alone.
-/

namespace HeatingBus

namespace Engine

/-- Whether a write gets as far as to the message of a layout. -/
def Reaches (engine : Engine) (address identification : UInt8) (name : String)
    (layout : MessageLayout) : Prop :=
  ∃ device, engine.registry.device? (withoutReadFlag address) = some device ∧
    engine.writableLayout (withoutReadFlag address) device.product identification = .ok layout ∧
    (layout.field? name).isSome

section
variable {engine : Engine} {address identification : UInt8} {name : String} {value : Value}
  {layout : MessageLayout}

theorem get?_of_writableLayout {product : Product}
    (writable : engine.writableLayout address product identification = .ok layout) :
    engine.messages.get? identification = some layout := by
  unfold writableLayout at writable
  split at writable
  · cases writable
  · split at writable
    · cases writable
    · rename_i known
      split at writable
      · cases writable
        exact known
      · cases writable

theorem Reaches.identification_eq (reaches : engine.Reaches address identification name layout) :
    layout.identification = identification := by
  obtain ⟨_, _, writable, _⟩ := reaches
  exact MessageCatalog.identification_of_get? (get?_of_writableLayout writable)

theorem registry_setValue_of_reaches (reaches : engine.Reaches address identification name layout) :
    (engine.setValue address identification name value).2.registry =
      engine.registry.mention (withoutReadFlag address) layout := by
  obtain ⟨device, identified, writable, named⟩ := reaches
  obtain ⟨field, declared⟩ := Option.isSome_iff_exists.mp named
  simp only [setValue, identified, writable, declared]
  rw [Registry.mention_of_device identified]
  split <;> rfl

theorem registry_setValue_of_not_reaches
    (stops : ∀ layout, ¬ engine.Reaches address identification name layout) :
    (engine.setValue address identification name value).2.registry = engine.registry := by
  simp only [setValue]
  split
  · rfl
  · rename_i device identified
    split
    · rfl
    · rename_i layout writable
      split
      · rfl
      · rename_i field declared
        refine absurd ⟨device, identified, writable, ?_⟩ (stops layout)
        rw [declared]
        rfl

end

end Engine

end HeatingBus
