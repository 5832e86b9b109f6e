import HeatingBus.Proofs.Engine.Knowledge
import HeatingBus.Proofs.Message.Writes
import HeatingBus.Proofs.Telegram.Frames
import HeatingBus.Proofs.Transport.Sending

/-!
# The guard of writes

What has to be true of a write for anything to be sent, and what is sent then: one telegram to one
device, with the bytes of one field. A write that fails to meet one of the conditions is refused
with the error of the first of them that it fails to meet.
-/

namespace HeatingBus

open Registry

/-! ## Telegrams of writes -/

structure Telegram.IsWrite (telegram : Telegram) (client address : BusAddress)
    (identification : UInt8) (position : Nat) (bytes : Bytes) : Prop where
  parsed : Telegram.parse telegram.toBytes = .ok telegram
  source : telegram.source = client
  kind : telegram.kind = .write
  destination : telegram.destinationByte = withoutReadFlag address
  least : 8 ≤ telegram.destinationByte
  greatest : telegram.destinationByte ≤ 71
  identification : telegram.identification = identification
  offset : telegram.offset.toNat = position
  payload : telegram.payload = bytes

theorem TelegramKind.ofDestination_withoutReadFlag {address : UInt8}
    (directed : withoutReadFlag address ≠ broadcastAddress) :
    TelegramKind.ofDestination (withoutReadFlag address) = .write := by
  have unflagged : withoutReadFlag address &&& readFlag = 0 := by
    rw [withoutReadFlag, UInt8.and_assoc]
    exact UInt8.and_zero
  rw [ofDestination, if_neg directed, if_neg (by simp [unflagged])]

theorem Telegram.isWrite_sealed {client address identification : UInt8} {position : Nat}
    {bytes : Bytes} (mapped : OnlineBitmap.HasBit (withoutReadFlag address))
    (addressable : position ≤ 0xFF) (least : 1 ≤ bytes.length)
    (greatest : bytes.length ≤ maxPayloadLength) :
    (Telegram.sealed client (withoutReadFlag address) identification (UInt8.ofNat position)
      bytes).IsWrite client address identification position bytes := by
  have directed : withoutReadFlag address ≠ broadcastAddress := by
    intro broadcast
    have low := mapped.1
    rw [broadcast] at low
    simp [broadcastAddress] at low
  refine ⟨parse_toBytes ⟨least, greatest, rfl⟩, rfl,
    TelegramKind.ofDestination_withoutReadFlag directed, rfl, UInt8.le_iff_toNat_le.mpr mapped.1,
    UInt8.le_iff_toNat_le.mpr (Nat.le_of_lt_succ mapped.2), rfl, ?_, rfl⟩
  exact UInt8.toNat_ofNat_of_lt' (Nat.lt_succ_of_le addressable)

namespace Engine

/-! ## Conditions -/

structure Accepts (engine : Engine) (address identification : UInt8) (device : Device)
    (layout : MessageLayout) : Prop where
  identified : engine.registry.device? (withoutReadFlag address) = some device
  productAccepts : device.product.readOnly = false
  known : engine.messages.get? identification = some layout
  messageAccepts : layout.writable = true

/-- The error of a write that is refused: the conditions before the one that it fails to meet are
met. -/
inductive Refusal (engine : Engine) (address identification : UInt8) (name : String)
    (value : Value) : BusError → Prop where
  | unidentified (unknown : engine.registry.device? (withoutReadFlag address) = none) :
      Refusal engine address identification name value
        (.deviceNotOnline (withoutReadFlag address))
  | readOnlyProduct (device : Device)
      (identified : engine.registry.device? (withoutReadFlag address) = some device)
      (readOnly : device.product.readOnly = true) :
      Refusal engine address identification name value
        (.writeNotSupported (withoutReadFlag address) device.product.name)
  | unknownMessage (device : Device)
      (identified : engine.registry.device? (withoutReadFlag address) = some device)
      (productAccepts : device.product.readOnly = false)
      (unknown : engine.messages.get? identification = none) :
      Refusal engine address identification name value (.unknownMessage identification)
  | readOnlyMessage (device : Device) (layout : MessageLayout)
      (identified : engine.registry.device? (withoutReadFlag address) = some device)
      (productAccepts : device.product.readOnly = false)
      (known : engine.messages.get? identification = some layout)
      (readOnly : layout.writable = false) :
      Refusal engine address identification name value
        (.writeNotSupported (withoutReadFlag address) s!"{device.product.name} ({layout.name})")
  | unknownField (device : Device) (layout : MessageLayout)
      (accepts : engine.Accepts address identification device layout)
      (undeclared : layout.field? name = none) :
      Refusal engine address identification name value (.unknownField identification name)
  | unencodable (device : Device) (layout : MessageLayout) (field : Field) (fault : EncodeError)
      (accepts : engine.Accepts address identification device layout)
      (declared : layout.field? name = some field)
      (unencoded : (engine.registry.recollect (withoutReadFlag address) layout).encodeWrite name
        value = .error (.encode fault)) :
      Refusal engine address identification name value (.encode fault)
  | beyondOffset (device : Device) (layout : MessageLayout) (field : Field) (bytes : Bytes)
      (accepts : engine.Accepts address identification device layout)
      (declared : layout.field? name = some field)
      (encoded : (engine.registry.recollect (withoutReadFlag address) layout).encodeWrite name
        value = .ok (field.position, bytes))
      (beyond : 0xFF < field.position) :
      Refusal engine address identification name value (.internal (.fieldBeyondOffset name))

/-- Whether a write meets all conditions, and the bytes that it writes then. -/
structure Permit (engine : Engine) (address identification : UInt8) (name : String) (value : Value)
    (device : Device) (layout : MessageLayout) (field : Field) (bytes : Bytes) : Prop where
  accepts : engine.Accepts address identification device layout
  declared : layout.field? name = some field
  encoded : (engine.registry.recollect (withoutReadFlag address) layout).encodeWrite name value =
    .ok (field.position, bytes)
  addressable : field.position ≤ 0xFF

section
variable {engine : Engine} {address identification : UInt8} {name : String} {value : Value}
  {device : Device} {layout : MessageLayout} {field : Field} {bytes : Bytes} {error : BusError}

theorem Accepts.writableLayout (accepts : engine.Accepts address identification device layout) :
    engine.writableLayout (withoutReadFlag address) device.product identification = .ok layout := by
  simp [Engine.writableLayout, accepts.productAccepts, accepts.known, accepts.messageAccepts]

theorem Accepts.layout_recollect (accepts : engine.Accepts address identification device layout)
    (filed : engine.registry.IsFiled engine.messages) :
    (engine.registry.recollect (withoutReadFlag address) layout).layout = layout := by
  have known := accepts.known
  rw [← MessageCatalog.identification_of_get? known] at known
  exact Engine.layout_recollect filed known

/-- A write meets all conditions, or it is refused. -/
theorem exists_refusal_or_permit (filed : engine.registry.IsFiled engine.messages) :
    (∃ error, engine.Refusal address identification name value error) ∨
      ∃ device layout field bytes,
        engine.Permit address identification name value device layout field bytes := by
  -- The cases are the conditions, in the order in which a write has to meet them.
  cases identified : engine.registry.device? (withoutReadFlag address) with
  | none => exact .inl ⟨_, .unidentified identified⟩
  | some device =>
    cases product : device.product.readOnly with
    | true => exact .inl ⟨_, .readOnlyProduct device identified product⟩
    | false =>
      cases known : engine.messages.get? identification with
      | none => exact .inl ⟨_, .unknownMessage device identified product known⟩
      | some layout =>
        cases writable : layout.writable with
        | false =>
          exact .inl ⟨_, .readOnlyMessage device layout identified product known writable⟩
        | true =>
          have accepts : engine.Accepts address identification device layout :=
            ⟨identified, product, known, writable⟩
          cases declared : layout.field? name with
          | none => exact .inl ⟨_, .unknownField device layout accepts declared⟩
          | some field =>
            have named := declared
            rw [← accepts.layout_recollect filed] at named
            rcases Message.encodeWrite_cases named value with
              ⟨fault, unencoded⟩ | ⟨bytes, encoded, _⟩
            · exact .inl ⟨_, .unencodable device layout field fault accepts declared unencoded⟩
            · rcases Nat.lt_or_ge 0xFF field.position with beyond | addressable
              · exact .inl ⟨_, .beyondOffset device layout field bytes accepts declared encoded
                  beyond⟩
              · exact .inr ⟨device, layout, field, bytes, accepts, declared, encoded, addressable⟩

/-! ## Telegrams -/

def writeFrame (engine : Engine) (address identification : UInt8) (position : Nat)
    (bytes : Bytes) : Telegram :=
  .sealed engine.config.clientId (withoutReadFlag address) identification (UInt8.ofNat position)
    bytes

theorem Permit.length_bytes
    (permit : engine.Permit address identification name value device layout field bytes)
    (filed : engine.registry.IsFiled engine.messages) :
    1 ≤ bytes.length ∧ bytes.length ≤ maxPayloadLength := by
  have named := permit.declared
  rw [← permit.accepts.layout_recollect filed] at named
  have bounds := Field.length_of_check
    (MessageLayout.check_field _ (MessageLayout.mem_of_field? named))
  rcases Message.encodeWrite_cases named value with ⟨fault, unencoded⟩ | ⟨found, encoded, length⟩
  · rw [permit.encoded] at unencoded
    cases unencoded
  · rw [permit.encoded] at encoded
    cases encoded
    have room : 8 ≤ maxPayloadLength := by decide
    omega

theorem writeTelegram_of_unencoded {message : Message}
    (unencoded : message.encodeWrite field.name value = .error error) :
    engine.writeTelegram address message field value = .error error := by
  simp [writeTelegram, unencoded, bind, Except.bind]

theorem writeTelegram_of_beyond {message : Message} {position : Nat}
    (encoded : message.encodeWrite field.name value = .ok (position, bytes))
    (beyond : 0xFF < position) :
    engine.writeTelegram address message field value =
      .error (.internal (.fieldBeyondOffset field.name)) := by
  simp [writeTelegram, encoded, bind, Except.bind, beyond]
  rfl

theorem Permit.writeTelegram_eq
    (permit : engine.Permit address identification name value device layout field bytes)
    (filed : engine.registry.IsFiled engine.messages) :
    engine.writeTelegram (withoutReadFlag address)
      (engine.registry.recollect (withoutReadFlag address) layout) field value =
        .ok (engine.writeFrame address identification field.position bytes) := by
  have encoded := permit.encoded
  rw [← MessageLayout.name_of_field? permit.declared] at encoded
  have addressable := Nat.not_lt.mpr permit.addressable
  have code : (engine.registry.recollect (withoutReadFlag address) layout).identification =
      identification := by
    rw [Message.identification, permit.accepts.layout_recollect filed]
    exact MessageCatalog.identification_of_get? permit.accepts.known
  simp only [writeTelegram, encoded, bind, Except.bind, addressable, if_false, code]
  rw [Telegram.write, withoutReadFlag_withoutReadFlag]
  exact Telegram.ofPayload_eq_ok_iff.mpr ⟨permit.length_bytes filed, rfl⟩

/-- A boolean field is written as the byte of what is known of its message. -/
theorem Permit.exists_current
    (permit : engine.Permit address identification name value device layout field bytes)
    (filed : engine.registry.IsFiled engine.messages) {bit : UInt8}
    (boolean : field.kind = .boolean bit) :
    ∃ current on,
      (engine.registry.recollect address layout).buffer[field.position]? = some current ∧
      value.asBool? = some on ∧ bytes = [field.applyBit current on] := by
  have named := permit.declared
  rw [← permit.accepts.layout_recollect filed] at named
  obtain ⟨current, known⟩ := Message.exists_current (MessageLayout.mem_of_field? named)
  obtain ⟨on, truth, written⟩ :=
    Message.encodeWrite_of_boolean named boolean known permit.encoded
  rw [recollect_congr (slotOf_withoutReadFlag address)] at known
  exact ⟨current, on, known, truth, written⟩

/-! ## Outcomes -/

/-- The engine once a write has got as far as to a field. -/
def atField (engine : Engine) (address : UInt8) (layout : MessageLayout) (field : Field)
    (value : Value) : Engine :=
  { engine with registry := engine.registry.mention (withoutReadFlag address) layout }.say
    (rangeNotes field value)

def writeNote (address identification : UInt8) (name : String) (value : Value) : LogEntry :=
  .info (s!"Writing {name} = {value.describe} to 0x" ++ Text.hexByte (withoutReadFlag address) ++
    " message 0x" ++ Text.hexByteUpper identification)

/-- What becomes of a write that gets as far as to a field. -/
theorem setValue_of_accepts (accepts : engine.Accepts address identification device layout)
    (declared : layout.field? name = some field) :
    engine.setValue address identification name value =
      match engine.writeTelegram (withoutReadFlag address)
        (engine.registry.recollect (withoutReadFlag address) layout) field value with
      | .error error => (.error (.failed error), engine.atField address layout field value)
      | .ok telegram =>
        ((engine.atField address layout field value).say
          [writeNote address identification name value]).send telegram := by
  simp only [setValue, accepts.identified, accepts.writableLayout, declared, atField,
    recollect_of_device accepts.identified, mention_of_device accepts.identified]
  rfl

/-- A write that is refused has the error of its refusal, and nothing is sent. -/
theorem setValue_of_refusal (refused : engine.Refusal address identification name value error) :
    (engine.setValue address identification name value).1 = .error (.failed error) ∧
      engine.transport.Appends
        (engine.setValue address identification name value).2.transport [] := by
  -- Lines are said and a message may be mentioned on the way, neither of which touches a queue.
  have unsent : ∀ after : Engine, after.transport.broker = engine.transport.broker →
      engine.setValue address identification name value = (.error (.failed error), after) →
      (engine.setValue address identification name value).1 = .error (.failed error) ∧
        engine.transport.Appends
          (engine.setValue address identification name value).2.transport [] := by
    intro after same failed
    rw [failed]
    exact ⟨rfl, Transport.appends_nil same⟩
  cases refused with
  | unidentified unknown =>
    exact unsent engine rfl (by simp [setValue, unknown])
  | readOnlyProduct device identified readOnly =>
    exact unsent engine rfl (by simp [setValue, identified, writableLayout, readOnly])
  | unknownMessage device identified productAccepts unknown =>
    exact unsent engine rfl
      (by simp [setValue, identified, writableLayout, productAccepts, unknown])
  | readOnlyMessage device layout identified productAccepts known readOnly =>
    exact unsent engine rfl
      (by simp [setValue, identified, writableLayout, productAccepts, known, readOnly])
  | unknownField device layout accepts undeclared =>
    exact unsent engine rfl
      (by simp [setValue, accepts.identified, accepts.writableLayout, undeclared])
  | unencodable device layout field fault accepts declared unencoded =>
    rw [← MessageLayout.name_of_field? declared] at unencoded
    refine unsent (engine.atField address layout field value) rfl ?_
    rw [setValue_of_accepts accepts declared, writeTelegram_of_unencoded unencoded]
  | beyondOffset device layout field bytes accepts declared encoded beyond =>
    have named := MessageLayout.name_of_field? declared
    rw [← named] at encoded
    refine unsent (engine.atField address layout field value) rfl ?_
    rw [setValue_of_accepts accepts declared, writeTelegram_of_beyond encoded beyond, named]

/-- A write that meets all conditions is sent as one telegram, if the telegram is taken. -/
theorem setValue_of_permit
    (permit : engine.Permit address identification name value device layout field bytes)
    (filed : engine.registry.IsFiled engine.messages) :
    ((engine.setValue address identification name value).1 = .ok () ↔ engine.transport.Takes
        (engine.writeFrame address identification field.position bytes).toBytes) ∧
    engine.transport.Appends (engine.setValue address identification name value).2.transport
      (match (engine.setValue address identification name value).1 with
        | .ok () => [(engine.writeFrame address identification field.position bytes).toBytes]
        | .error _ => []) := by
  -- The queues and the connection are the engine's own, as nothing but lines has been said.
  have sent := ((engine.atField address layout field value).say
    [writeNote address identification name value]).transport.appends_send
      (engine.writeFrame address identification field.position bytes)
  rw [setValue_of_accepts permit.accepts permit.declared, permit.writeTelegram_eq filed]
  exact ⟨Transport.send_eq_ok_iff, fun handle => sent handle⟩

/-- A frame that a write has added to a queue is the one of the telegram of the write. -/
theorem exists_permit_of_queued (filed : engine.registry.IsFiled engine.messages)
    {handle : QueueHandle} {frame : Bytes}
    (queued : ((engine.setValue address identification name value).2.transport.broker.queue
        handle).frames = (engine.transport.broker.queue handle).frames ++ [frame]) :
    ∃ device layout field bytes,
      engine.Permit address identification name value device layout field bytes ∧
        (engine.writeFrame address identification field.position bytes).toBytes = frame := by
  have conditions : (∃ error, engine.Refusal address identification name value error) ∨ _ :=
    exists_refusal_or_permit filed
  rcases conditions with ⟨error, refused⟩ | ⟨device, layout, field, bytes, permit⟩
  · have unsent := (setValue_of_refusal refused).2.eq_of_queued queued
    cases unsent
  · have sent := (setValue_of_permit permit filed).2.eq_of_queued queued
    refine ⟨device, layout, field, bytes, permit, ?_⟩
    split at sent
    · exact List.singleton_inj.mp sent
    · cases sent

theorem Permit.isWrite
    (permit : engine.Permit address identification name value device layout field bytes)
    (filed : engine.registry.IsFiled engine.messages)
    (consistent : engine.registry.IsConsistent) :
    (engine.writeFrame address identification field.position bytes).IsWrite engine.config.clientId
      address identification field.position bytes := by
  -- A known device is in the bitmap, so that its address is none of broadcasts and requests.
  have online := consistent.isOnline_of_device? (withoutReadFlag_lt address)
    permit.accepts.identified
  obtain ⟨least, greatest⟩ := permit.length_bytes filed
  exact Telegram.isWrite_sealed (OnlineBitmap.hasBit_of_isOnline online) permit.addressable least
    greatest

/-- A write leaves every message that is kept already as it is. -/
theorem message?_setValue {other code : UInt8} {message : Message}
    (kept : engine.registry.message? other code = some message) :
    (engine.setValue address identification name value).2.registry.message? other code =
      some message := by
  rcases registry_setValue with same | ⟨layout, _, mentioned⟩
  · rw [same, kept]
  · rw [mentioned, message?_mention_of_some kept]

end

/-- After any calls of a new engine, a write meets all conditions or it is refused. One that is
refused has the error of the first condition that it fails to meet, and nothing is sent. For one
that meets them all a single telegram is sent if the outbound queue takes it, and none otherwise;
the telegram goes to one device and has the bytes of the field. Either way no message changes. -/
theorem setValue_run {start : Engine} (new : start.registry = .empty) (calls : List Call)
    (address identification : UInt8) (name : String) (value : Value) :
    let engine := start.run calls
    let outcome := engine.setValue address identification name value
    ((∃ error, engine.Refusal address identification name value error) ∨
      ∃ device layout field bytes,
        engine.Permit address identification name value device layout field bytes) ∧
    (∀ error, engine.Refusal address identification name value error →
      outcome.1 = .error (.failed error) ∧
        engine.transport.Appends outcome.2.transport []) ∧
    (∀ device layout field bytes,
      engine.Permit address identification name value device layout field bytes →
        ∃ telegram : Telegram, telegram.IsWrite start.config.clientId address identification
          field.position bytes ∧
          (outcome.1 = .ok () ↔ engine.transport.Takes telegram.toBytes) ∧
          engine.transport.Appends outcome.2.transport
            (match outcome.1 with
              | .ok () => [telegram.toBytes]
              | .error _ => [])) ∧
    ∀ other code message, engine.registry.message? other code = some message →
      outcome.2.registry.message? other code = some message := by
  intro engine outcome
  have filed : engine.registry.IsFiled engine.messages := isFiled_run calls (isFiled_of_new new _)
  have consistent : engine.registry.IsConsistent :=
    isConsistent_run calls (isConsistent_of_new new)
  refine ⟨exists_refusal_or_permit filed, fun error => setValue_of_refusal, ?_,
    fun other code message => message?_setValue⟩
  intro device layout field bytes permit
  refine ⟨engine.writeFrame address identification field.position bytes, ?_,
    setValue_of_permit permit filed⟩
  rw [← config_run calls]
  exact permit.isWrite filed consistent

/-- The power of the boiler is written as one telegram to the boiler; a write to an address without
a device is refused. -/
theorem setValue_run_of_boiler :
    let engine := boilerEngine.run (boilerDiscovery ++ [.surroundings connectedTransport])
    boilerEngine.registry = .empty ∧
      (∃ telegram : Telegram, telegram.IsWrite 0x0B 8 0x1A 1 [70] ∧
        engine.transport.Appends (engine.setValue 8 0x1A "heat_power" (.integer 70)).2.transport
          [telegram.toBytes]) ∧
      (engine.setValue 9 0x1A "heat_power" (.integer 70)).1 =
        .error (.failed (.deviceNotOnline 9)) := by
  intro engine
  have new : boilerEngine.registry = .empty := rfl
  have guard := setValue_run new (boilerDiscovery ++ [.surroundings connectedTransport])
  have sent : (engine.setValue 8 0x1A "heat_power" (.integer 70)).1 = .ok () := by decide +kernel
  have power : (engine.registry.recollect 8 setValuesLayout).encodeWrite "heat_power"
      (.integer 70) = .ok (1, [70]) := by
    decide +kernel
  refine ⟨new, ?_, ((guard 9 0x1A "heat_power" (.integer 70)).2.1 _ (.unidentified ?_)).1⟩
  · obtain ⟨conditions, refused, permitted, _⟩ := guard 8 0x1A "heat_power" (.integer 70)
    rcases conditions with ⟨error, refusal⟩ | ⟨device, layout, field, bytes, permit⟩
    · have failed := sent.symm.trans (refused error refusal).1
      cases failed
    · obtain ⟨telegram, isWrite, _, appended⟩ := permitted device layout field bytes permit
      have known := permit.accepts.known
      rw [messages_run] at known
      obtain rfl : setValuesLayout = layout := Option.some.inj known
      have encoded := power.symm.trans permit.encoded
      rw [Except.ok.injEq, Prod.mk.injEq] at encoded
      obtain ⟨position, rfl⟩ := encoded
      rw [← position] at isWrite
      refine ⟨telegram, isWrite, ?_⟩
      have only : engine.transport.Appends
          (engine.setValue 8 0x1A "heat_power" (.integer 70)).2.transport
          (match (engine.setValue 8 0x1A "heat_power" (.integer 70)).1 with
            | .ok () => [telegram.toBytes]
            | .error _ => []) := appended
      rwa [sent] at only
  · have unidentified : (engine.registry.device? 9).isNone = true := by decide +kernel
    exact Option.isNone_iff_eq_none.mp unidentified

end Engine

end HeatingBus
