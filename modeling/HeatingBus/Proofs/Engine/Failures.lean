import HeatingBus.Proofs.Engine.Run

/-!
# Failures

What a failed operation leaves behind. A telegram that fails changes neither the transport nor, as a
rule, the registry, and so does a write as far as the registry is concerned. The exception is the
first telegram or write about a message of an identified device: the message is kept, empty, before
anything is known of what there is to enter or to send.
-/

namespace HeatingBus

namespace Engine

/-- Whether a telegram is the first one about a message of an identified device. -/
def IsFirstMention (engine : Engine) (telegram : Telegram) (layout : MessageLayout) : Prop :=
  telegram.identification ≠ onlineMessage ∧
    engine.messages.get? telegram.identification = some layout ∧
    engine.registry.IsUnheard (withoutReadFlag telegram.source) telegram.identification

def IsFirstWrite (engine : Engine) (address identification : UInt8) (name : String)
    (layout : MessageLayout) : Prop :=
  engine.Reaches address identification name layout ∧
    engine.registry.IsUnheard (withoutReadFlag address) identification

section
variable {engine : Engine} {telegram : Telegram} {layout : MessageLayout} {error : BusError}

theorem eq_error_of_map {α β : Type} {result : Except Halt α} {next : α → β} {halt : Halt}
    (failed : result.map next = .error halt) : result = .error halt := by
  cases result with
  | ok value => cases failed
  | error found =>
    cases failed
    rfl

theorem not_isFirstMention_of_unidentified
    (unidentified : engine.registry.device? (withoutReadFlag telegram.source) = none) :
    ¬ engine.IsFirstMention telegram layout := by
  rintro ⟨_, _, device, identified, _⟩
  rw [unidentified] at identified
  cases identified

/-- A telegram that fails leaves the engine as it was, or it was about a message of an identified
device and has done no more than to mention it. -/
theorem dispatch_failed (failed : (engine.dispatch telegram).1 = .error (.failed error)) :
    (∀ layout, ¬ engine.IsFirstMention telegram layout) ∧
        (engine.dispatch telegram).2 = engine ∨
      ∃ layout, telegram.identification ≠ onlineMessage ∧
        engine.messages.get? telegram.identification = some layout ∧
        (engine.dispatch telegram).2 =
          { engine with
            registry := engine.registry.mention (withoutReadFlag telegram.source) layout } := by
  cases engine.handling telegram with
  | passed asked handled =>
    rw [handled] at failed
    cases failed
  | refused told unknown handled =>
    refine .inl ⟨fun layout first => ?_, by rw [handled]⟩
    rw [first.2.1] at unknown
    cases unknown
  | presence layout told known online handled =>
    refine .inl ⟨fun _ first => first.1 online, ?_⟩
    rw [handled] at failed ⊢
    have sticks : ¬ telegram.window.FitsInto layout :=
      fun fits => updatePresence_ne_failed fits (eq_error_of_map failed)
    exact congrArg Prod.snd (updatePresence_of_not_fits sticks)
  | kept layout device told known other identified handled =>
    -- The message is stored back before it is clear that the telegram does not fit.
    refine .inr ⟨layout, other, known, ?_⟩
    rw [handled] at failed ⊢
    have sticks : ¬ telegram.window.FitsInto (device.cachedOrNew layout).message.layout :=
      fun fits => keep_ne_failed fits failed
    rw [Registry.mention_of_device identified]
    exact congrArg Prod.snd (keep_of_not_fits sticks)
  | version layout told known own unidentified handled =>
    refine .inl ⟨fun _ => not_isFirstMention_of_unidentified unidentified, ?_⟩
    rw [handled] at failed ⊢
    have sticks : ¬ telegram.window.FitsInto layout := fun fits => identify_ne_failed fits failed
    exact congrArg Prod.snd (identify_of_not_fits sticks)
  | shown layout told known other foreign unidentified handled =>
    refine .inl ⟨fun _ => not_isFirstMention_of_unidentified unidentified, ?_⟩
    rw [handled] at failed ⊢
    have sticks : ¬ telegram.window.FitsInto layout :=
      fun fits => showUnidentified_ne_failed fits failed
    exact congrArg Prod.snd (showUnidentified_of_not_fits sticks)

/-- What a telegram that fails makes of the registry. -/
theorem registry_of_failed_dispatch
    (failed : (engine.dispatch telegram).1 = .error (.failed error)) :
    ((engine.dispatch telegram).2.registry = engine.registry ↔
        ∀ layout, ¬ engine.IsFirstMention telegram layout) ∧
      ∀ layout, engine.IsFirstMention telegram layout →
        (engine.dispatch telegram).2.registry =
          engine.registry.mention (withoutReadFlag telegram.source) layout := by
  rcases dispatch_failed failed with ⟨heard, same⟩ | ⟨layout, other, known, mentioned⟩
  · rw [same]
    exact ⟨iff_of_true rfl heard, fun layout first => absurd first (heard layout)⟩
  · have code := MessageCatalog.identification_of_get? known
    rw [mentioned]
    refine ⟨?_, ?_⟩
    · rw [Registry.mention_eq_self_iff, code]
      constructor
      · intro heard other first
        exact heard first.2.2
      · intro never unheard
        exact never layout ⟨other, known, unheard⟩
    · rintro mentioned ⟨_, same, _⟩
      rw [known] at same
      cases same
      rfl

/-- What a write makes of the registry, whether it fails or not. -/
theorem registry_of_write {address identification : UInt8} {name : String} {value : Value} :
    ((engine.setValue address identification name value).2.registry = engine.registry ↔
        ∀ layout, ¬ engine.IsFirstWrite address identification name layout) ∧
      ∀ layout, engine.IsFirstWrite address identification name layout →
        (engine.setValue address identification name value).2.registry =
          engine.registry.mention (withoutReadFlag address) layout := by
  refine ⟨?_, fun layout first => registry_setValue_of_reaches first.1⟩
  -- A write reaches one message at most, whether its value can be sent or not.
  by_cases reached : ∃ layout, engine.Reaches address identification name layout
  · obtain ⟨layout, reaches⟩ := reached
    rw [registry_setValue_of_reaches reaches, Registry.mention_eq_self_iff,
      reaches.identification_eq]
    constructor
    · intro heard other first
      exact heard first.2
    · intro never unheard
      exact never layout ⟨reaches, unheard⟩
  · have stops := not_exists.mp reached
    exact iff_of_true (registry_setValue_of_not_reaches stops)
      (fun layout first => stops layout first.1)

end

/-- A failed operation leaves the registry as it was, unless it is the first one about a message of
an identified device; that message is kept from then on, and it is empty. A telegram that fails
changes nothing else of the engine, and it queues no frame. -/
theorem registry_of_failed (engine : Engine) :
    (∀ (telegram : Telegram) (error : BusError),
      (engine.dispatch telegram).1 = .error (.failed error) →
        (∃ registry, (engine.dispatch telegram).2 = { engine with registry }) ∧
        ((engine.dispatch telegram).2.registry = engine.registry ↔
          ∀ layout, ¬ engine.IsFirstMention telegram layout) ∧
        ∀ layout, engine.IsFirstMention telegram layout →
          (engine.dispatch telegram).2.registry =
            engine.registry.mention (withoutReadFlag telegram.source) layout) ∧
    (∀ (address identification : UInt8) (name : String) (value : Value) (error : BusError),
      (engine.setValue address identification name value).1 = .error (.failed error) →
        ((engine.setValue address identification name value).2.registry = engine.registry ↔
          ∀ layout, ¬ engine.IsFirstWrite address identification name layout) ∧
        ∀ layout, engine.IsFirstWrite address identification name layout →
          (engine.setValue address identification name value).2.registry =
            engine.registry.mention (withoutReadFlag address) layout) := by
  refine ⟨fun telegram error failed => ⟨?_, registry_of_failed_dispatch failed⟩,
    fun address identification name value error _ => registry_of_write⟩
  rcases dispatch_failed failed with ⟨_, same⟩ | ⟨_, _, _, mentioned⟩
  · exact ⟨engine.registry, same⟩
  · exact ⟨_, mentioned⟩

/-- A telegram of the boiler that runs past the end of its set values. -/
def misplacedTelegram : Telegram := .sealed 8 0 0x1A 2 [0, 0, 0]

/-- Before the boiler is known, the telegram fails and leaves the registry alone, and so does a
write to the boiler. -/
theorem registry_of_failed_before_discovery :
    ((boilerEngine.dispatch misplacedTelegram).1 = .error (.failed (.outOfRange 2 3 4)) ∧
        (boilerEngine.dispatch misplacedTelegram).2.registry = boilerEngine.registry) ∧
      (boilerEngine.setValue 8 0x1A "heat_power" (.integer 50)).1 =
          .error (.failed (.deviceNotOnline 8)) ∧
        (boilerEngine.setValue 8 0x1A "heat_power" (.integer 50)).2.registry =
          boilerEngine.registry := by
  obtain ⟨telegrams, writes⟩ := registry_of_failed boilerEngine
  have unidentified : boilerEngine.registry.device? 8 = none := rfl
  have misplaced : (boilerEngine.dispatch misplacedTelegram).1 =
      .error (.failed (.outOfRange 2 3 4)) := rfl
  have offline : (boilerEngine.setValue 8 0x1A "heat_power" (.integer 50)).1 =
      .error (.failed (.deviceNotOnline 8)) := rfl
  refine ⟨⟨misplaced, (telegrams _ _ misplaced).2.1.mpr ?_⟩, offline,
    (writes _ _ _ _ _ offline).1.mpr ?_⟩
  · exact fun _ => not_isFirstMention_of_unidentified unidentified
  · rintro layout ⟨_, device, identified, _⟩
    rw [show withoutReadFlag 8 = 8 from rfl, unidentified] at identified
    cases identified

/-- Once the boiler is known, the telegram fails all the same, but its message is kept. -/
theorem not_registry_of_failed :
    ¬ ∀ (config : EngineConfig) (messages : MessageCatalog) (devices : DeviceCatalog)
        (transport : Transport) (sink : EventSink) (start : Engine) (calls : List Call)
        (telegram : Telegram) (error : BusError),
        Engine.new config messages devices transport sink = .ok start →
        ((start.run calls).dispatch telegram).1 = .error (.failed error) →
        ((start.run calls).dispatch telegram).2.registry = (start.run calls).registry := by
  intro always
  have started : Engine.new boilerEngine.config boilerEngine.messages boilerEngine.devices
      boilerEngine.transport boilerEngine.sink = .ok boilerEngine := rfl
  have failed : ((boilerEngine.run boilerDiscovery).dispatch misplacedTelegram).1.map
      (fun _ => ()) = .error (.failed (.outOfRange 2 3 4)) := by decide +kernel
  have same := always _ _ _ _ _ _ boilerDiscovery misplacedTelegram _ started
    (eq_error_of_map failed)
  have kept : (((boilerEngine.run boilerDiscovery).dispatch misplacedTelegram).2.registry.message?
      8 0x1A).isSome = true := by decide +kernel
  have unkept : ((boilerEngine.run boilerDiscovery).registry.message? 8 0x1A).isSome = false := by
    decide +kernel
  rw [same, unkept] at kept
  cases kept

end Engine

end HeatingBus
