import HeatingBus.Proofs.Engine.Run
import HeatingBus.Proofs.Registry.Presence
import Mathlib.Data.List.Induction

/-!
# Presence under an engine

The two records of who is present agree in the registry of every engine that started out with an
empty one, whatever is called of the engine and done to its registry, and in whatever order.
-/

namespace HeatingBus

open Registry

namespace Engine

/-! ## Calls -/

theorem isConsistent_dispatch {engine : Engine} (consistent : engine.registry.IsConsistent)
    (telegram : Telegram) : (engine.dispatch telegram).2.registry.IsConsistent := by
  cases engine.handling telegram with
  | passed asked handled => rwa [handled]
  | refused told unknown handled => rwa [handled]
  | presence layout told known online handled =>
    rw [handled]
    show (engine.updatePresence layout telegram.window.bytes
      telegram.window.offset).2.registry.IsConsistent
    by_cases fits : telegram.window.FitsInto layout
    · rw [registry_updatePresence fits]
      exact consistent.applyOnlineUpdate _ _
    · rwa [updatePresence_of_not_fits fits]
  | kept layout device told known other identified handled =>
    rw [handled]
    show (engine.keep _ device layout telegram.window.bytes
      telegram.window.offset).2.registry.IsConsistent
    by_cases fits : telegram.window.FitsInto (device.cachedOrNew layout).message.layout
    · rw [registry_keep fits]
      exact consistent.store identified _ _
    · rw [keep_of_not_fits fits]
      exact consistent.store identified _ _
  | version layout told known own unidentified handled =>
    rw [handled]
    show (engine.identify _ layout telegram.window.bytes
      telegram.window.offset).2.registry.IsConsistent
    -- The message told nothing, or the device is entered, and perhaps reported already.
    rcases registry_identify with same | ⟨product, version, entered | ⟨ticket, entered⟩⟩
    · rwa [same]
    · rw [entered]
      exact consistent.identify _ product version
    · rw [entered]
      exact (consistent.identify _ product version).dropTicket ticket
  | shown layout told known other foreign unidentified handled =>
    rw [handled]
    show (engine.showUnidentified _ layout telegram.window.bytes
      telegram.window.offset).2.registry.IsConsistent
    rwa [registry_showUnidentified]

theorem isConsistent_setValue {engine : Engine} (consistent : engine.registry.IsConsistent)
    (address identification : UInt8) (name : String) (value : Value) :
    (engine.setValue address identification name value).2.registry.IsConsistent := by
  by_cases reached : ∃ layout, engine.Reaches address identification name layout
  · obtain ⟨layout, reaches⟩ := reached
    rw [registry_setValue_of_reaches reaches]
    exact consistent.mention _ layout
  · rwa [registry_setValue_of_not_reaches (not_exists.mp reached)]

theorem isConsistent_perform {engine : Engine} (consistent : engine.registry.IsConsistent)
    (call : Call) : (engine.perform call).registry.IsConsistent := by
  cases call with
  | dispatch telegram => exact isConsistent_dispatch consistent telegram
  | setValue address identification name value =>
    exact isConsistent_setValue consistent address identification name value
  | readRequest address identification => exact consistent
  | surroundings transport => exact consistent

/-! ## Runs -/

inductive Activity where
  | call (call : Call)
  | action (action : Registry.Action)

def undergo (engine : Engine) : Activity → Engine
  | .call call => engine.perform call
  | .action action => { engine with registry := engine.registry.act action }

def afterAll (engine : Engine) (activities : List Activity) : Engine :=
  activities.foldl undergo engine

theorem isConsistent_undergo {engine : Engine} (consistent : engine.registry.IsConsistent)
    (activity : Activity) : (engine.undergo activity).registry.IsConsistent := by
  cases activity with
  | call call => exact isConsistent_perform consistent call
  | action action => exact consistent.act action

theorem isConsistent_afterAll {engine : Engine} (consistent : engine.registry.IsConsistent)
    (activities : List Activity) : (engine.afterAll activities).registry.IsConsistent := by
  induction activities using List.reverseRecOn with
  | nil => exact consistent
  | append_singleton activities activity inductionHypothesis =>
    have last : engine.afterAll (activities ++ [activity]) =
        (engine.afterAll activities).undergo activity := by
      simp [afterAll]
    rw [last]
    exact isConsistent_undergo inductionHypothesis activity

/-- After any activities of an engine that started out with an empty registry, an address is
present in the table exactly if it is in the bitmap, which only an address from 8 to 71 can be; an
identified device is the one of its address; and a broadcast of the bitmap leaves all that is known
of it as it is if it stays in the bitmap, and forgets it with all its messages if it does not. -/
theorem presence_afterAll {engine : Engine} (new : engine.registry = .empty)
    (activities : List Activity) {address : UInt8} (bound : address < 128) :
    let registry := (engine.afterAll activities).registry
    (registry.state address ≠ .offline ↔ registry.bitmap.isOnline address = true) ∧
    (¬ (8 ≤ address ∧ address ≤ 71) → registry.state address = .offline) ∧
    (∀ device, registry.device? address = some device →
      device.address = address ∧
      ∀ (update : Bytes) (offset : Nat),
        let after := (registry.applyOnlineUpdate update offset).registry
        (after.bitmap.isOnline address = true → after.slot address = registry.slot address) ∧
        (after.bitmap.isOnline address = false → after.state address = .offline ∧
          ∀ identification, after.message? address identification = none)) := by
  intro registry
  have start : engine.registry.IsConsistent := by
    rw [new]
    exact isConsistent_empty
  have consistent : registry.IsConsistent := isConsistent_afterAll start activities
  refine ⟨consistent.present_iff address bound, fun outside => ?_, fun device identified => ?_⟩
  · by_contra present
    have mapped := OnlineBitmap.hasBit_of_isOnline
      ((consistent.present_iff address bound).mp present)
    apply outside
    rw [UInt8.le_iff_toNat_le, UInt8.le_iff_toNat_le]
    exact ⟨mapped.1, Nat.le_of_lt_succ mapped.2⟩
  · refine ⟨?_, fun update offset => ⟨?_, ?_⟩⟩
    · rw [consistent.own_address address device identified, withoutReadFlag_eq_of_lt bound]
    · exact consistent.slot_of_online bound identified
    · intro gone
      have offline := consistent.state_of_offline bound gone
      exact ⟨offline, fun _ => message?_of_offline offline⟩

/-- A boiler that was identified is present; a broadcast without it forgets it. -/
theorem presence_of_boiler :
    let registry := (boilerEngine.afterAll (boilerDiscovery.map .call)).registry
    registry.isIdentified 8 = true ∧ registry.bitmap.isOnline 8 = true ∧
      (∀ device, registry.device? 8 = some device → device.address = 8) ∧
      (registry.applyOnlineUpdate [0] 0).registry.state 8 = .offline := by
  intro registry
  have bound : (8 : UInt8) < 128 := by decide
  have start : boilerEngine.registry = .empty := rfl
  obtain ⟨present, _, known⟩ := presence_afterAll start (boilerDiscovery.map .call) bound
  have identified : registry.isIdentified 8 = true := by decide +kernel
  obtain ⟨device, found⟩ := Option.isSome_iff_exists.mp identified
  refine ⟨identified, present.mp fun offline => ?_, fun other same => (known other same).1, ?_⟩
  · rw [device?_eq_some_iff.mp found] at offline
    cases offline
  · exact (((known device found).2 [0] 0).2 (by decide +kernel)).1

end Engine

end HeatingBus
