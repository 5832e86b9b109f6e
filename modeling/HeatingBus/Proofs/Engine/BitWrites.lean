import HeatingBus.Proofs.Engine.Replay
import HeatingBus.Proofs.Engine.WriteGuard
import HeatingBus.Proofs.Field.Bits
import HeatingBus.Proofs.Message.LastBytes

/-!
# Writes of single bits

A bit is written as a byte, and the other bits of the byte are those of the last byte that the
device has told since it was identified. A device that has not told the byte yet gets zeros in
place of them: the buffer of the message does not say which of its bytes were ever received.
-/

namespace HeatingBus

open Registry

/-- Whether nothing is known of any message that is kept under the code of the bitmap. -/
def Registry.HasBlankBitmaps (registry : Registry) : Prop :=
  ∀ address message, registry.message? address onlineMessage = some message →
    message = .new message.layout

namespace Engine

/-! ## What is kept of a message -/

section
variable {engine : Engine} {telegram : Telegram} {after : Registry} {event : Option BusEvent}

/-- The broadcast of the bitmap is not kept as a message. -/
theorem hasBlankBitmaps_of_course (blank : engine.registry.HasBlankBitmaps)
    (course : engine.Course telegram after event) : after.HasBlankBitmaps := by
  intro address message kept
  have elsewhere : ∀ {layout}, engine.messages.get? telegram.identification = some layout →
      telegram.identification ≠ onlineMessage → onlineMessage ≠ layout.identification := by
    intro layout catalogued other same
    rw [MessageCatalog.identification_of_get? catalogued] at same
    exact other same.symm
  cases course with
  | idle => exact blank address message kept
  | presence => exact blank address message (message?_of_applyOnlineUpdate kept)
  | misfit layout device told catalogued other =>
    rw [message?_absorb_elsewhere fun _ => elsewhere catalogued other] at kept
    exact blank address message kept
  | update layout device outcome told catalogued other =>
    rw [message?_absorb_elsewhere fun _ => elsewhere catalogued other] at kept
    exact blank address message kept
  | introduction layout product outcome told catalogued own waiting recognised =>
    -- A device starts out with its version message and no other one.
    by_cases same : slotOf address = slotOf (withoutReadFlag telegram.source)
    · have version : outcome.message.identification = versionMessage := by
        rw [← Message.absorb_of_parse recognised.1, Message.identification, Message.layout_absorb,
          ← own]
        exact MessageCatalog.identification_of_get? catalogued
      rw [message?_identify_self waiting same, version, if_neg (by decide)] at kept
      cases kept
    · rw [message?_of_device? (device?_identify_of_ne same)] at kept
      exact blank address message kept

theorem hasBlankBitmaps_perform (blank : engine.registry.HasBlankBitmaps) (call : Call) :
    (engine.perform call).registry.HasBlankBitmaps := by
  cases call with
  | dispatch telegram =>
    obtain ⟨after, course, follows⟩ := exists_course engine telegram
    intro address message kept
    rw [perform, follows.agrees.message?] at kept
    exact hasBlankBitmaps_of_course blank course address message kept
  | setValue target code name value =>
    intro address message kept
    rw [perform] at kept
    rcases registry_setValue with same | ⟨layout, _, mentioned⟩
    · rw [same] at kept
      exact blank address message kept
    · rw [mentioned] at kept
      rcases message?_of_mention kept with before | ⟨_, rfl⟩
      · exact blank address message before
      · rfl
  | readRequest address identification => exact blank
  | surroundings transport => exact blank

end

section
variable {start : Engine} {calls earlier later : List Call} {address : UInt8} {version : Telegram}
  {layout : MessageLayout}

theorem hasBlankBitmaps_run (new : start.registry = .empty) (calls : List Call) :
    (start.run calls).registry.HasBlankBitmaps := by
  induction calls using List.reverseRecOn with
  | nil =>
    intro address message kept
    rw [run_nil, message?_of_unidentified (device?_of_new new address)] at kept
    cases kept
  | append_singleton calls call inductionHypothesis =>
    rw [run_concat]
    exact hasBlankBitmaps_perform inductionHypothesis call

/-- The updates that a device has delivered of a message, as far as they are kept. -/
def deliveries (address : UInt8) (layout : MessageLayout) (calls : List Call) : List Window :=
  if layout.identification = onlineMessage then [] else updatesOf address layout calls

theorem IsTenure.recollect_eq_deliveries
    (tenure : IsTenure start calls address earlier version later) (new : start.registry = .empty)
    (known : start.messages.get? layout.identification = some layout) :
    (start.run calls).registry.recollect address layout =
      .after layout (deliveries address layout (.dispatch version :: later)) := by
  by_cases online : layout.identification = onlineMessage
  · rw [deliveries, if_pos online, Message.after_nil, recollect, online]
    cases kept : (start.run calls).registry.message? address onlineMessage with
    | none => rfl
    | some message =>
      have filed := isFiled_run calls (isFiled_of_new new start.messages) address onlineMessage
        message kept
      rw [messages_run, ← online, known, Option.some.injEq] at filed
      rw [Option.getD_some, hasBlankBitmaps_run new calls address message kept, ← filed]
  · rw [deliveries, if_neg online, tenure.recollect_eq new known online]

theorem fitsInto_of_mem_deliveries {window : Window}
    (delivered : window ∈ deliveries address layout calls) : window.FitsInto layout := by
  rw [deliveries] at delivered
  split at delivered
  · cases delivered
  · obtain ⟨call, _, brought⟩ := List.mem_flatMap.mp delivered
    cases call with
    | dispatch telegram =>
      rw [Call.windows, windowsOf] at brought
      split at brought
      · rename_i fits
        rw [List.mem_singleton.mp brought]
        exact fits.2
      · cases brought
    | setValue | readRequest | surroundings => cases brought

theorem IsTenure.getElem?_buffer (tenure : IsTenure start calls address earlier version later)
    (new : start.registry = .empty)
    (known : start.messages.get? layout.identification = some layout) {position : Nat}
    (inside : position < layout.length) :
    ((start.run calls).registry.recollect address layout).buffer[position]? =
      some ((lastByte? (deliveries address layout (.dispatch version :: later))
        position).getD 0) := by
  rw [tenure.recollect_eq_deliveries new known]
  exact Message.getElem?_buffer_after (fun _ => fitsInto_of_mem_deliveries) inside

end

/-! ## Bytes with one bit changed -/

/-- What a write of a bit sends: the last byte that the device has delivered at the place of the
field since it was identified, with the bit of the field changed. The other bits are zero if it has
delivered none. -/
theorem siblings_setValue_run {start : Engine} (new : start.registry = .empty) {calls : List Call}
    {address identification bit : UInt8} {name : String} {value : Value} {layout : MessageLayout}
    {field : Field} (known : start.messages.get? identification = some layout)
    (declared : layout.field? name = some field) (boolean : field.kind = .boolean bit)
    {handle : QueueHandle} {frame : Bytes}
    (queued : (((start.run calls).setValue address identification name
        value).2.transport.broker.queue handle).frames =
      ((start.run calls).transport.broker.queue handle).frames ++ [frame]) :
    ∃ telegram byte, Telegram.parse frame = .ok telegram ∧ telegram.payload = [byte] ∧
      value.asBool? = some (byte.toNat.testBit bit.toNat) ∧
      (∃ earlier version later, IsTenure start calls address earlier version later) ∧
      ∀ earlier version later, IsTenure start calls address earlier version later →
        ∀ place < 8, place ≠ bit.toNat → byte.toNat.testBit place =
          match lastByte? (deliveries address layout (.dispatch version :: later))
            field.position with
          | some last => last.toNat.testBit place
          | none => false := by
  have filed := isFiled_run calls (isFiled_of_new new start.messages)
  have consistent := isConsistent_run calls (isConsistent_of_new new)
  obtain ⟨device, found, target, bytes, permit, rfl⟩ := exists_permit_of_queued filed queued
  have isWrite := permit.isWrite filed consistent
  have catalogued := permit.accepts.known
  rw [messages_run, known, Option.some.injEq] at catalogued
  subst catalogued
  have same := permit.declared
  rw [declared, Option.some.injEq] at same
  subst same
  obtain ⟨current, on, held, truth, rfl⟩ := permit.exists_current filed boolean
  have accepted := layout.check_field (MessageLayout.mem_of_field? declared)
  have bound := Field.bit_of_check accepted boolean
  have small : bit.toNat < 8 := Nat.lt_succ_of_le (UInt8.le_iff_toNat_le.mp bound)
  have inside : field.position < layout.length := by
    obtain ⟨least, _, ends⟩ := Field.length_of_check accepted
    rw [Field.finish] at ends
    omega
  refine ⟨_, field.applyBit current on, isWrite.parsed, isWrite.payload, ?_, ?_, ?_⟩
  · rw [Field.testBit_applyBit boolean bound on small, if_pos rfl, truth]
  · have identified : (start.run calls).registry.isIdentified address = true := by
      rw [isIdentified, ← device?_congr (slotOf_withoutReadFlag address),
        permit.accepts.identified]
      rfl
    exact exists_isTenure new identified
  · intro earlier version later tenure place below other
    rw [← MessageCatalog.identification_of_get? known] at known
    rw [tenure.getElem?_buffer new known inside, Option.some.injEq] at held
    -- A byte that was never delivered is in the buffer as a zero.
    rw [Field.testBit_applyBit boolean bound on below, if_neg other, ← held]
    cases lastByte? (deliveries address layout (.dispatch version :: later)) field.position with
    | none => exact Nat.zero_testBit place
    | some last => rfl

/-! ## Drink water -/

def drinkWaterLayout : MessageLayout where
  row := .acceptingWrites (.readOnly 0x33 "UbaDrinkwaterParameter" 11
    KnownMessages.ubaDrinkwaterParamFields)
  index := _
  accepted := rfl

def installedField : Field :=
  Field.boolean 0 3 "installed" "Drink water system installed" |>.withUnit .yesNo

def drinkWaterEngine : Engine :=
  { boilerEngine with messages := ⟨[versionLayout, onlineLayout, drinkWaterLayout]⟩ }

def drinkWaterFrame (byte : UInt8) : Bytes :=
  (Telegram.sealed 0x0B 8 0x33 0 [byte]).toBytes

/-- The bit is written into the byte that the boiler has told. -/
theorem siblings_setValue_run_of_told :
    let told := Telegram.sealed 8 0 0x33 0 [0xF0, 0x01]
    let calls := boilerDiscovery ++ [.dispatch told, .surroundings connectedTransport]
    (((drinkWaterEngine.run calls).setValue 8 0x33 "installed"
        (.bool true)).2.transport.broker.queue 1).frames = [drinkWaterFrame 0xF8] ∧
      ∃ telegram byte, Telegram.parse (drinkWaterFrame 0xF8) = .ok telegram ∧
        telegram.payload = [byte] ∧
        ∀ place < 8, place ≠ 3 → byte.toNat.testBit place = (0xF0 : UInt8).toNat.testBit place := by
  intro told calls
  have new : drinkWaterEngine.registry = .empty := rfl
  have idle : ((drinkWaterEngine.run calls).transport.broker.queue 1).frames = [] := by
    decide +kernel
  have sent : (((drinkWaterEngine.run calls).setValue 8 0x33 "installed"
      (.bool true)).2.transport.broker.queue 1).frames = [drinkWaterFrame 0xF8] := by
    decide +kernel
  have queued : (((drinkWaterEngine.run calls).setValue 8 0x33 "installed"
      (.bool true)).2.transport.broker.queue 1).frames =
        ((drinkWaterEngine.run calls).transport.broker.queue 1).frames ++
          [drinkWaterFrame 0xF8] := by
    rw [sent, idle, List.nil_append]
  have known : drinkWaterEngine.messages.get? 0x33 = some drinkWaterLayout := rfl
  have declared : drinkWaterLayout.field? "installed" = some installedField := rfl
  obtain ⟨telegram, byte, parsed, payload, _, _, siblings⟩ :=
    siblings_setValue_run new known declared rfl queued
  refine ⟨sent, telegram, byte, parsed, payload, fun place below other => ?_⟩
  have tenure : IsTenure drinkWaterEngine calls 8 [.dispatch (.sealed 8 0 onlineMessage 0 [1])]
      (.sealed 8 0 versionMessage 0 [123, 1, 2])
      [.dispatch told, .surroundings connectedTransport] :=
    ⟨rfl, by decide +kernel, by decide +kernel⟩
  have agrees := siblings _ _ _ tenure place below other
  have last : lastByte? (deliveries 8 drinkWaterLayout [.dispatch (.sealed 8 0 versionMessage 0
      [123, 1, 2]), .dispatch told, .surroundings connectedTransport]) 0 = some 0xF0 := by
    decide
  have first : installedField.position = 0 := rfl
  rw [first, last] at agrees
  exact agrees

/-- A boiler that has told nothing of its drink water parameters gets a byte with a single bit all
the same. -/
theorem not_siblings_setValue_run :
    ¬ ∀ (config : EngineConfig) (messages : MessageCatalog) (devices : DeviceCatalog)
        (transport : Transport) (sink : EventSink) (start : Engine) (calls : List Call)
        (address identification bit : UInt8) (name : String) (value : Value)
        (layout : MessageLayout) (field : Field) (handle : QueueHandle) (frame : Bytes),
        Engine.new config messages devices transport sink = .ok start →
        start.messages.get? identification = some layout →
        layout.field? name = some field → field.kind = .boolean bit →
        (((start.run calls).setValue address identification name
            value).2.transport.broker.queue handle).frames =
          ((start.run calls).transport.broker.queue handle).frames ++ [frame] →
        ∃ earlier version later last telegram byte,
          IsTenure start calls address earlier version later ∧
          lastByte? (updatesOf address layout (.dispatch version :: later)) field.position =
            some last ∧
          Telegram.parse frame = .ok telegram ∧ telegram.payload = [byte] ∧
          ∀ place < 8, place ≠ bit.toNat →
            byte.toNat.testBit place = last.toNat.testBit place := by
  intro always
  have started : Engine.new drinkWaterEngine.config drinkWaterEngine.messages
      drinkWaterEngine.devices drinkWaterEngine.transport drinkWaterEngine.sink =
        .ok drinkWaterEngine := rfl
  have queued : (((drinkWaterEngine.run (boilerDiscovery ++
      [.surroundings connectedTransport])).setValue 8 0x33 "installed"
        (.bool true)).2.transport.broker.queue 1).frames =
      ((drinkWaterEngine.run (boilerDiscovery ++
        [.surroundings connectedTransport])).transport.broker.queue 1).frames ++
          [drinkWaterFrame 0x08] := by
    decide +kernel
  obtain ⟨earlier, version, later, last, _, _, tenure, delivered, _⟩ :=
    always _ _ _ _ _ drinkWaterEngine _ 8 0x33 3 "installed" (.bool true) drinkWaterLayout
      installedField 1 _ started rfl rfl rfl queued
  have untold : updatesOf 8 drinkWaterLayout (boilerDiscovery ++
      [.surroundings connectedTransport]) = [] := by
    decide
  rw [tenure.split, updatesOf, List.flatMap_append, List.append_eq_nil_iff] at untold
  rw [updatesOf, untold.2] at delivered
  cases delivered

end Engine

end HeatingBus
