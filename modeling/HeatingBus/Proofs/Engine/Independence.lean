import HeatingBus.Proofs.Engine.FollowUps
import HeatingBus.Proofs.Registry.Locality

/-!
# Independent telegrams

What a telegram comes to depends on the slot of its source alone, and in the slot of an identified
device on the message of its code alone. So telegrams of different sources, and telegrams of
different messages of one device, come to the same in either order.
-/

namespace HeatingBus

open Registry

namespace Engine

/-! ## Engines that differ in what they know -/

/-- Whether two engines differ at most in their registries and their transports. -/
def IsVariant (engine other : Engine) : Prop :=
  ∃ registry transport, other = { engine with registry, transport }

section
variable {engine other : Engine} {telegram : Telegram} {source : BusAddress}
  {layout : MessageLayout} {device otherDevice : Device} {payload : Bytes} {offset : Nat}
  {product : Product} {outcome : Update} {targets : List (BusAddress × UInt8)}

theorem isVariant_dispatch (engine : Engine) (telegram : Telegram) :
    engine.IsVariant (engine.dispatch telegram).2 :=
  exists_parts_dispatch engine telegram

theorem IsVariant.introduces_iff (variant : engine.IsVariant other) :
    other.Introduces telegram product ↔ engine.Introduces telegram product := by
  obtain ⟨registry, transport, rfl⟩ := variant
  exact ⟨fun ⟨told, own, reported, first⟩ => ⟨told, own, reported, first⟩,
    fun ⟨told, own, reported, first⟩ => ⟨told, own, reported, first⟩⟩

/-- What is not a broadcast is followed by the same requests as long as its source waits, or as long
as it does not. -/
theorem IsVariant.isFollowedBy (variant : engine.IsVariant other)
    (foreign : telegram.identification ≠ onlineMessage)
    (same : other.registry.state (withoutReadFlag telegram.source) = .onlineUnidentified ↔
      engine.registry.state (withoutReadFlag telegram.source) = .onlineUnidentified)
    (follows : engine.IsFollowedBy telegram targets) : other.IsFollowedBy telegram targets := by
  cases follows with
  | arrivals _ broadcasts => exact absurd broadcasts (not_broadcasts_of_other foreign)
  | introduction product settles =>
    have introduces := variant.introduces_iff.mpr settles.2
    obtain ⟨registry, transport, rfl⟩ := variant
    exact .introduction product ⟨same.mpr settles.1, introduces⟩
  | nothing _ unsettled =>
    refine .nothing (not_broadcasts_of_other foreign) fun product settles => ?_
    exact unsettled product ⟨same.mp settles.1, variant.introduces_iff.mp settles.2⟩

/-! ## One telegram -/

/-- What is reported of a message, and what is kept of it, depends on what was kept of it. -/
theorem exists_entry_keep (engine : Engine) (source : BusAddress) (device : Device)
    (layout : MessageLayout) (payload : Bytes) (offset : Nat) :
    ∃ entry, ∀ {other : Engine} {otherDevice : Device}, engine.IsVariant other →
      otherDevice.info = device.info →
      otherDevice.cachedOrNew layout = device.cachedOrNew layout →
      (other.keep source otherDevice layout payload offset).1 =
          (engine.keep source device layout payload offset).1 ∧
        (other.keep source otherDevice layout payload offset).2.registry = other.registry.setState
          source (.identified (otherDevice.withCached layout.identification entry)) := by
  cases parsed : (device.cachedOrNew layout).message.parse payload offset with
  | error error =>
    refine ⟨some (device.cachedOrNew layout), fun variant info cached => ?_⟩
    obtain ⟨registry, transport, rfl⟩ := variant
    simp only [keep, cached, parsed]
    exact ⟨trivial, rfl⟩
  | ok outcome =>
    let order := (device.cachedOrNew layout).order
    refine ⟨some ⟨outcome.message, order.draw.drop order.next⟩, fun variant info cached => ?_⟩
    obtain ⟨registry, transport, rfl⟩ := variant
    simp only [keep, cached, parsed, info]
    exact ⟨rfl, rfl⟩

/-- A device that waits is entered and reported as long as the requests for its first messages do
not wait. -/
theorem enter_of_served (waiting : engine.registry.state source = .onlineUnidentified)
    (served : (engine.enter source product outcome.message outcome.changed).1 ≠ .error .waiting) :
    (engine.enter source product outcome.message outcome.changed).1 =
        .ok (engine.sink.deliver
          (discovery (Device.new (withoutReadFlag source) product).info outcome)) ∧
      (engine.enter source product outcome.message outcome.changed).2.registry =
        engine.registry.withSlot source (settledSlot source product outcome.message
          ((engine.registry.slot source).tenure + 1)) := by
  obtain ⟨ticket, found, dropped⟩ := exists_ticket_of_identify product outcome.message waiting
  cases entered : (engine.enter source product outcome.message outcome.changed).1 with
  | error halt =>
    cases halt with
    | waiting => exact absurd entered served
    | failed error => exact absurd entered enter_ne_failed
  | ok event =>
    refine ⟨by rw [event_enter waiting entered], ?_⟩
    simp only [enter, found] at entered ⊢
    split at entered
    · cases entered
    · rename_i after requested
      rw [← dropped]
      exact congrArg (·.dropTicket ticket) (registry_of_request requested)

theorem enter_local (variant : engine.IsVariant other)
    (same : other.registry.slot source = engine.registry.slot source)
    (served : (engine.enter source product outcome.message outcome.changed).1 ≠ .error .waiting)
    (servedOther :
      (other.enter source product outcome.message outcome.changed).1 ≠ .error .waiting) :
    (other.enter source product outcome.message outcome.changed).1 =
        (engine.enter source product outcome.message outcome.changed).1 ∧
      ∃ slot,
        (engine.enter source product outcome.message outcome.changed).2.registry =
          engine.registry.withSlot source slot ∧
        (other.enter source product outcome.message outcome.changed).2.registry =
          other.registry.withSlot source slot := by
  have sameState : other.registry.state source = engine.registry.state source := by
    rw [state, same, state]
  by_cases waiting : engine.registry.state source = .onlineUnidentified
  · obtain ⟨result, registry⟩ := enter_of_served waiting served
    obtain ⟨resultOther, registryOther⟩ := enter_of_served (sameState.trans waiting) servedOther
    rw [same] at registryOther
    obtain ⟨_, _, rfl⟩ := variant
    exact ⟨resultOther.trans result.symm, _, registry, registryOther⟩
  · have settled : other.registry.state source ≠ .onlineUnidentified := by rwa [sameState]
    obtain ⟨result, registry⟩ := enter_of_not_waiting waiting
    obtain ⟨resultOther, registryOther⟩ := enter_of_not_waiting settled
    refine ⟨resultOther.trans result.symm, engine.registry.slot source, ?_, ?_⟩
    · rw [registry, withSlot_slot]
    · rw [registryOther, ← same, withSlot_slot]

theorem identify_local (variant : engine.IsVariant other)
    (same : other.registry.slot source = engine.registry.slot source)
    (served : (engine.identify source layout payload offset).1 ≠ .error .waiting)
    (servedOther : (other.identify source layout payload offset).1 ≠ .error .waiting) :
    (other.identify source layout payload offset).1 =
        (engine.identify source layout payload offset).1 ∧
      ∃ slot,
        (engine.identify source layout payload offset).2.registry =
          engine.registry.withSlot source slot ∧
        (other.identify source layout payload offset).2.registry =
          other.registry.withSlot source slot := by
  have unchanged : ∃ slot, engine.registry = engine.registry.withSlot source slot ∧
      other.registry = other.registry.withSlot source slot :=
    ⟨_, withSlot_slot.symm, by rw [← same, withSlot_slot]⟩
  obtain ⟨registry, transport, rfl⟩ := variant
  cases parsed : (Message.new layout).parse payload offset with
  | error error =>
    simp only [identify, parsed]
    exact ⟨trivial, unchanged⟩
  | ok outcome =>
    cases reported : reportedProduct? outcome.message with
    | none =>
      simp only [identify, parsed, reported]
      exact ⟨trivial, unchanged⟩
    | some id =>
      -- The products of a number are the same for both, since they are those of the catalogue.
      have foundOther : ({ engine with registry, transport }.say outcome.notes).product? id =
        engine.product? id := rfl
      cases found : engine.product? id with
      | none =>
        have unknown : (engine.say outcome.notes).product? id = none := found
        simp only [identify, parsed, reported, foundOther, unknown, found]
        exact ⟨trivial, unchanged⟩
      | some product =>
        have known : (engine.say outcome.notes).product? id = some product := found
        simp only [identify, parsed, reported, foundOther, known, found] at served servedOther ⊢
        have variant : (engine.say outcome.notes).IsVariant
          ({ engine with registry, transport }.say outcome.notes) := ⟨registry, _, rfl⟩
        exact enter_local variant same served servedOther

theorem showUnidentified_local (variant : engine.IsVariant other) :
    (other.showUnidentified source layout payload offset).1 =
      (engine.showUnidentified source layout payload offset).1 := by
  obtain ⟨registry, transport, rfl⟩ := variant
  rw [showUnidentified, showUnidentified]
  cases (Message.new layout).parse payload offset with
  | error error => rfl
  | ok outcome => rfl

/-- What a telegram comes to depends on the slot of its source, and it changes nothing but this
slot. -/
theorem dispatch_local (variant : engine.IsVariant other)
    (foreign : telegram.identification ≠ onlineMessage)
    (same : other.registry.slot (withoutReadFlag telegram.source) =
      engine.registry.slot (withoutReadFlag telegram.source))
    (served : (engine.dispatch telegram).1 ≠ .error .waiting)
    (servedOther : (other.dispatch telegram).1 ≠ .error .waiting) :
    (other.dispatch telegram).1 = (engine.dispatch telegram).1 ∧
      ∃ slot,
        (engine.dispatch telegram).2.registry =
          engine.registry.withSlot (withoutReadFlag telegram.source) slot ∧
        (other.dispatch telegram).2.registry =
          other.registry.withSlot (withoutReadFlag telegram.source) slot := by
  have unchanged : ∃ slot,
      engine.registry = engine.registry.withSlot (withoutReadFlag telegram.source) slot ∧
      other.registry = other.registry.withSlot (withoutReadFlag telegram.source) slot :=
    ⟨_, withSlot_slot.symm, by rw [← same, withSlot_slot]⟩
  have messages : other.messages = engine.messages := by
    obtain ⟨_, _, rfl⟩ := variant
    rfl
  -- Of the registry the ways of a dispatch read the slot of the source alone, so that both engines
  -- take the same way.
  cases engine.handling telegram with
  | passed asked handled =>
    rw [dispatch_of_asked asked, dispatch_of_asked asked]
    exact ⟨rfl, unchanged⟩
  | refused told unknown handled =>
    rw [dispatch_of_unknown told unknown, dispatch_of_unknown told (by rwa [messages])]
    exact ⟨rfl, unchanged⟩
  | presence layout told known online handled => exact absurd online foreign
  | kept layout device told known _ identified handled =>
    have identifiedOther : other.registry.device? (withoutReadFlag telegram.source) =
        some device := by
      rwa [device?_of_slot same]
    rw [dispatch_of_kept told known foreign identified,
      dispatch_of_kept told (by rwa [messages]) foreign identifiedOther]
    obtain ⟨entry, kept⟩ := engine.exists_entry_keep (withoutReadFlag telegram.source) device
      layout telegram.window.bytes telegram.window.offset
    obtain ⟨result, registryOther⟩ := kept variant rfl rfl
    obtain ⟨_, registry⟩ := kept ⟨_, _, rfl⟩ rfl rfl
    rw [setState_eq_withSlot] at registry registryOther
    rw [same] at registryOther
    exact ⟨result, _, registry, registryOther⟩
  | version layout told known own unidentified handled =>
    have unidentifiedOther : other.registry.device? (withoutReadFlag telegram.source) = none := by
      rwa [device?_of_slot same]
    rw [dispatch_of_version told known own unidentified] at served ⊢
    rw [dispatch_of_version told (by rwa [messages]) own unidentifiedOther] at servedOther ⊢
    exact identify_local variant same served servedOther
  | shown layout told known _ own unidentified handled =>
    have unidentifiedOther : other.registry.device? (withoutReadFlag telegram.source) = none := by
      rwa [device?_of_slot same]
    rw [dispatch_of_shown told known foreign own unidentified,
      dispatch_of_shown told (by rwa [messages]) foreign own unidentifiedOther,
      registry_showUnidentified, registry_showUnidentified]
    exact ⟨showUnidentified_local variant, unchanged⟩

/-- What a telegram of an identified device comes to depends on what is kept of its message, and it
changes nothing else. -/
theorem exists_entry_dispatch (foreign : telegram.identification ≠ onlineMessage)
    (identified : engine.registry.device? (withoutReadFlag telegram.source) = some device) :
    ∃ entry, ∀ {other : Engine} {otherDevice : Device}, engine.IsVariant other →
      other.registry.device? (withoutReadFlag telegram.source) = some otherDevice →
      otherDevice.info = device.info →
      otherDevice.cached? telegram.identification = device.cached? telegram.identification →
      (other.dispatch telegram).1 = (engine.dispatch telegram).1 ∧
        (other.dispatch telegram).2.registry =
          other.registry.setState (withoutReadFlag telegram.source)
            (.identified (otherDevice.withCached telegram.identification entry)) := by
  have unchanged : ∀ {other : Engine} {otherDevice : Device},
      other.registry.device? (withoutReadFlag telegram.source) = some otherDevice →
      otherDevice.cached? telegram.identification = device.cached? telegram.identification →
      other.registry = other.registry.setState (withoutReadFlag telegram.source) (.identified
        (otherDevice.withCached telegram.identification
          (device.cached? telegram.identification))) := by
    intro other otherDevice identifiedOther cached
    have state := device?_eq_some_iff.mp identifiedOther
    rw [← cached, Device.withCached_cached?, setState_state state]
  cases asked : telegram.isReadRequest with
  | true =>
    refine ⟨device.cached? telegram.identification, fun _ identifiedOther _ cached => ?_⟩
    rw [dispatch_of_asked asked, dispatch_of_asked asked]
    exact ⟨rfl, unchanged identifiedOther cached⟩
  | false =>
    cases known : engine.messages.get? telegram.identification with
    | none =>
      refine ⟨device.cached? telegram.identification, fun variant identifiedOther _ cached => ?_⟩
      obtain ⟨registry, transport, rfl⟩ := variant
      rw [dispatch_of_unknown asked known, dispatch_of_unknown asked (by exact known)]
      exact ⟨rfl, unchanged identifiedOther cached⟩
    | some layout =>
      have own := MessageCatalog.identification_of_get? known
      obtain ⟨entry, kept⟩ := engine.exists_entry_keep (withoutReadFlag telegram.source) device
        layout telegram.window.bytes telegram.window.offset
      refine ⟨entry, fun {other otherDevice} variant identifiedOther info cached => ?_⟩
      have knownOther : other.messages.get? telegram.identification = some layout := by
        obtain ⟨registry, transport, rfl⟩ := variant
        exact known
      rw [dispatch_of_kept asked known foreign identified,
        dispatch_of_kept asked knownOther foreign identifiedOther]
      rw [← own] at cached ⊢
      exact kept variant info (by rw [Device.cachedOrNew, cached, Device.cachedOrNew])

/-! ## Two telegrams -/

theorem slot_dispatch_of_ne {address : UInt8} (foreign : telegram.identification ≠ onlineMessage)
    (served : (engine.dispatch telegram).1 ≠ .error .waiting)
    (different : slotOf address ≠ slotOf (withoutReadFlag telegram.source)) :
    (engine.dispatch telegram).2.registry.slot address = engine.registry.slot address := by
  have variant : engine.IsVariant engine := ⟨_, _, rfl⟩
  obtain ⟨_, slot, entered, _⟩ := dispatch_local variant foreign rfl served served
  rw [entered, slot_withSlot_of_ne different]

theorem device?_setState_withCached {registry : Registry} {address identification : UInt8}
    {entry : Option CachedMessage} :
    (registry.setState address (.identified (device.withCached identification entry))).device?
      address = some (device.withCached identification entry) := by
  rw [device?, state, slot_setState_self]
  rfl

end

/-- Whether two telegrams have nothing to do with each other: neither of them is about who is
present, and they are about different addresses or about different messages of one device. -/
structure AreIndependent (engine : Engine) (first second : Telegram) : Prop where
  foreign : first.identification ≠ onlineMessage
  foreignToo : second.identification ≠ onlineMessage
  apart : (withoutReadFlag first.source, first.identification) ≠
    (withoutReadFlag second.source, second.identification)
  settled : withoutReadFlag first.source = withoutReadFlag second.source →
    engine.registry.isIdentified first.source = true

section
variable {engine : Engine} {first second : Telegram} {device : Device}
  {ofFirst ofSecond : List (BusAddress × UInt8)}

theorem AreIndependent.symm (independent : engine.AreIndependent first second) :
    engine.AreIndependent second first := by
  refine ⟨independent.foreignToo, independent.foreign, independent.apart.symm, fun same => ?_⟩
  have identified := independent.settled same.symm
  rwa [isIdentified, device?_congr (slotOf_eq_iff.mpr same), ← isIdentified]

/-- Independent telegrams have different sources, or they are about different messages of the one
device that is their source. -/
theorem AreIndependent.cases (independent : engine.AreIndependent first second) :
    slotOf (withoutReadFlag second.source) ≠ slotOf (withoutReadFlag first.source) ∨
      withoutReadFlag second.source = withoutReadFlag first.source ∧
      second.identification ≠ first.identification ∧
      ∃ device, engine.registry.device? (withoutReadFlag first.source) = some device := by
  by_cases same : withoutReadFlag second.source = withoutReadFlag first.source
  · have identified := independent.settled same.symm
    rw [isIdentified, ← device?_congr (slotOf_withoutReadFlag first.source)] at identified
    refine .inr ⟨same, fun equal => independent.apart ?_, Option.isSome_iff_exists.mp identified⟩
    rw [same, equal]
  · refine .inl fun sameSlot => same ?_
    rwa [slotOf_eq_slotOf_withoutReadFlag_iff, withoutReadFlag_withoutReadFlag] at sameSlot

/-- A telegram leaves open whether the source of an independent one waits to be identified. -/
theorem AreIndependent.waits_iff (independent : engine.AreIndependent first second)
    (served : (engine.dispatch first).1 ≠ .error .waiting) :
    (engine.dispatch first).2.registry.state (withoutReadFlag second.source) =
        .onlineUnidentified ↔
      engine.registry.state (withoutReadFlag second.source) = .onlineUnidentified := by
  rcases independent.cases with different | ⟨same, _, device, identified⟩
  · rw [state, slot_dispatch_of_ne independent.foreign served different, state]
  · obtain ⟨entry, enters⟩ := exists_entry_dispatch independent.foreign identified
    obtain ⟨_, entered⟩ := enters ⟨_, _, rfl⟩ identified rfl rfl
    rw [same, entered, state, slot_setState_self, device?_eq_some_iff.mp identified]
    simp

theorem dispatch_comm_of_apart (foreign : first.identification ≠ onlineMessage)
    (foreignToo : second.identification ≠ onlineMessage)
    (different : slotOf (withoutReadFlag second.source) ≠ slotOf (withoutReadFlag first.source))
    (served : (engine.dispatch first).1 ≠ .error .waiting)
    (servedToo : (engine.dispatch second).1 ≠ .error .waiting)
    (servedAfter : ((engine.dispatch second).2.dispatch first).1 ≠ .error .waiting)
    (servedAfterToo : ((engine.dispatch first).2.dispatch second).1 ≠ .error .waiting) :
    ((engine.dispatch first).2.dispatch second).2.registry =
        ((engine.dispatch second).2.dispatch first).2.registry ∧
      ((engine.dispatch second).2.dispatch first).1 = (engine.dispatch first).1 ∧
      ((engine.dispatch first).2.dispatch second).1 = (engine.dispatch second).1 := by
  obtain ⟨result, slot, entered, enteredAfter⟩ := dispatch_local
    (isVariant_dispatch engine second) foreign
    (slot_dispatch_of_ne foreignToo servedToo different.symm) served servedAfter
  obtain ⟨resultToo, slotToo, enteredToo, enteredAfterToo⟩ := dispatch_local
    (isVariant_dispatch engine first) foreignToo
    (slot_dispatch_of_ne foreign served different) servedToo servedAfterToo
  refine ⟨?_, result, resultToo⟩
  rw [enteredAfterToo, entered, enteredAfter, enteredToo, withSlot_comm different]

theorem dispatch_comm_of_device (foreign : first.identification ≠ onlineMessage)
    (foreignToo : second.identification ≠ onlineMessage)
    (same : withoutReadFlag second.source = withoutReadFlag first.source)
    (different : second.identification ≠ first.identification)
    (identified : engine.registry.device? (withoutReadFlag first.source) = some device) :
    ((engine.dispatch first).2.dispatch second).2.registry =
        ((engine.dispatch second).2.dispatch first).2.registry ∧
      ((engine.dispatch second).2.dispatch first).1 = (engine.dispatch first).1 ∧
      ((engine.dispatch first).2.dispatch second).1 = (engine.dispatch second).1 := by
  have identifiedToo : engine.registry.device? (withoutReadFlag second.source) = some device := by
    rwa [same]
  obtain ⟨entry, enters⟩ := exists_entry_dispatch foreign identified
  obtain ⟨entryToo, entersToo⟩ := exists_entry_dispatch foreignToo identifiedToo
  obtain ⟨_, entered⟩ := enters ⟨_, _, rfl⟩ identified rfl rfl
  obtain ⟨_, enteredToo⟩ := entersToo ⟨_, _, rfl⟩ identifiedToo rfl rfl
  -- Either telegram finds the device of the other one, which keeps its own message as it was.
  have still : (engine.dispatch first).2.registry.device? (withoutReadFlag second.source) =
      some (device.withCached first.identification entry) := by
    rw [entered, same]
    exact device?_setState_withCached
  have stillToo : (engine.dispatch second).2.registry.device? (withoutReadFlag first.source) =
      some (device.withCached second.identification entryToo) := by
    rw [enteredToo, same]
    exact device?_setState_withCached
  obtain ⟨result, enteredAfter⟩ := enters (isVariant_dispatch engine second) stillToo rfl
    (Device.cached?_withCached_of_ne different.symm)
  obtain ⟨resultToo, enteredAfterToo⟩ := entersToo (isVariant_dispatch engine first) still rfl
    (Device.cached?_withCached_of_ne different)
  refine ⟨?_, result, resultToo⟩
  rw [enteredAfterToo, enteredAfter, entered, enteredToo, same, setState_setState,
    setState_setState, Device.withCached_comm different]

/-- A telegram leaves what follows an independent one, and the room for it. -/
theorem AreIndependent.enqueues (independent : engine.AreIndependent first second)
    (follows : engine.IsFollowedBy first ofFirst) (followsToo : engine.IsFollowedBy second ofSecond)
    (takes : engine.transport.TakesAll
      (requestFrames engine.config.clientId (ofFirst ++ ofSecond))) :
    (engine.dispatch first).1 ≠ .error .waiting ∧
      engine.transport.Enqueues (engine.dispatch first).2.transport
        (requestFrames engine.config.clientId ofFirst) ∧
      ((engine.dispatch first).2.dispatch second).1 ≠ .error .waiting ∧
      (engine.dispatch first).2.transport.Enqueues
        ((engine.dispatch first).2.dispatch second).2.transport
        (requestFrames engine.config.clientId ofSecond) := by
  rw [requestFrames_append] at takes
  obtain ⟨served, enqueues⟩ := follows.enqueues takes.left
  have variant := isVariant_dispatch engine first
  have own : (engine.dispatch first).2.config = engine.config := by
    obtain ⟨registry, transport, same⟩ := variant
    rw [same]
  have followsAfter := variant.isFollowedBy independent.foreignToo
    (independent.waits_iff served) followsToo
  have room := enqueues.takesAll takes
  rw [← own] at room
  obtain ⟨servedToo, enqueuesToo⟩ := followsAfter.enqueues room
  rw [own] at enqueuesToo
  exact ⟨served, enqueues, servedToo, enqueuesToo⟩

/-- Independent telegrams commute: in either order they come to the same registry, and each of them
to the same result and the same requests. -/
theorem dispatch_comm (independent : engine.AreIndependent first second)
    (takes : ∀ ofFirst ofSecond, engine.IsFollowedBy first ofFirst →
      engine.IsFollowedBy second ofSecond → engine.transport.TakesAll
        (requestFrames engine.config.clientId (ofFirst ++ ofSecond))) :
    let afterFirst := engine.dispatch first
    let afterSecond := engine.dispatch second
    let afterBoth := afterFirst.2.dispatch second
    let afterBothToo := afterSecond.2.dispatch first
    afterBoth.2.registry = afterBothToo.2.registry ∧
      afterBothToo.1 = afterFirst.1 ∧ afterBoth.1 = afterSecond.1 ∧
      ∃ framesOfFirst framesOfSecond,
        engine.transport.Appends afterFirst.2.transport framesOfFirst ∧
        afterFirst.2.transport.Appends afterBoth.2.transport framesOfSecond ∧
        engine.transport.Appends afterSecond.2.transport framesOfSecond ∧
        afterSecond.2.transport.Appends afterBothToo.2.transport framesOfFirst := by
  intro afterFirst afterSecond afterBoth afterBothToo
  obtain ⟨ofFirst, follows⟩ := engine.exists_targets first
  obtain ⟨ofSecond, followsToo⟩ := engine.exists_targets second
  have takes := takes ofFirst ofSecond follows followsToo
  have takesToo : engine.transport.TakesAll
      (requestFrames engine.config.clientId (ofSecond ++ ofFirst)) := by
    rw [requestFrames_append] at takes ⊢
    exact takes.comm
  obtain ⟨served, enqueued, servedLater, enqueuedLater⟩ :=
    independent.enqueues follows followsToo takes
  obtain ⟨servedToo, enqueuedToo, servedLaterToo, enqueuedLaterToo⟩ :=
    independent.symm.enqueues followsToo follows takesToo
  have commutes : afterBoth.2.registry = afterBothToo.2.registry ∧
      afterBothToo.1 = afterFirst.1 ∧ afterBoth.1 = afterSecond.1 := by
    rcases independent.cases with apart | ⟨same, different, device, identified⟩
    · exact dispatch_comm_of_apart independent.foreign independent.foreignToo apart served
        servedToo servedLaterToo servedLater
    · exact dispatch_comm_of_device independent.foreign independent.foreignToo same different
        identified
  obtain ⟨registry, result, resultToo⟩ := commutes
  exact ⟨registry, result, resultToo, _, _, enqueued.appends, enqueuedLater.appends,
    enqueuedToo.appends, enqueuedLaterToo.appends⟩

end

/-! ## Two boilers -/

def curiousEngine : Engine :=
  { boilerEngine with devices := ⟨boilerEngine.devices.products, [(.boiler, [0x1A])]⟩ }

def secondArrival : List Call :=
  [.dispatch (.sealed 8 0 onlineMessage 0 [3]), .surroundings connectedTransport]

/-- A boiler says what it is while another one tells its set values. The first telegram is followed
by a request, and the second one by none. -/
theorem dispatch_comm_of_boilers :
    let engine := curiousEngine.run (boilerDiscovery ++ secondArrival)
    let first := Telegram.sealed 9 0 versionMessage 0 [123, 1, 2]
    let second := Telegram.sealed 8 0 0x1A 0 [60, 100, 0, 1]
    engine.AreIndependent first second ∧
      (∀ ofFirst ofSecond, engine.IsFollowedBy first ofFirst →
        engine.IsFollowedBy second ofSecond → ofFirst = [(9, 0x1A)] ∧ ofSecond = [] ∧
        engine.transport.TakesAll
          (requestFrames engine.config.clientId (ofFirst ++ ofSecond))) ∧
      ((engine.dispatch first).2.dispatch second).2.registry =
        ((engine.dispatch second).2.dispatch first).2.registry := by
  intro engine first second
  have independent : engine.AreIndependent first second :=
    ⟨by decide, by decide, by decide, fun same => absurd same (by decide)⟩
  have introduces : engine.Introduces first ⟨123, .boiler, "Boiler", .none, false⟩ := by
    rw [introduces_run_iff]
    have reported : ((Message.new versionLayout).parse first.payload 0).map
        (fun outcome => reportedProduct? outcome.message) = .ok (some 123) := by
      decide +kernel
    cases parsed : (Message.new versionLayout).parse first.payload 0 with
    | error error =>
      rw [parsed] at reported
      cases reported
    | ok outcome =>
      rw [parsed] at reported
      have number : reportedProduct? outcome.message = some 123 := Except.ok.inj reported
      exact ⟨by decide, rfl, ⟨versionLayout, outcome, 123, rfl, parsed, number, rfl⟩, [], [], rfl,
        by simp⟩
  have waiting : engine.registry.state 9 = .onlineUnidentified := by
    have shown : (engine.registry.state 9).name = "online, unidentified" := by decide +kernel
    cases known : engine.registry.state 9 with
    | onlineUnidentified => rfl
    | offline => simp [known, AddressState.name] at shown
    | identified device => simp [known, AddressState.name] at shown
  have requests : engine.devices.initialRequests .boiler = [0x1A] := by decide +kernel
  have own : engine.config.clientId = 0x0B := by decide +kernel
  have takes : engine.transport.TakesAll (requestFrames 0x0B [(9, 0x1A)]) := by
    refine ⟨1, by decide +kernel, by decide +kernel, ?_⟩
    rw [Queue.takesAll_iff]
    decide +kernel
  -- From here on it is of no importance how the engine has come to all this.
  clear_value engine
  have follows : engine.IsFollowedBy first [(9, 0x1A)] := by
    have source : withoutReadFlag first.source = 9 := by decide
    rw [← source] at waiting
    have asked := IsFollowedBy.introduction _ (And.intro waiting introduces)
    rw [requests, source] at asked
    exact asked
  have followsToo : engine.IsFollowedBy second [] :=
    .nothing (not_broadcasts_of_other (by decide))
      fun product => not_settles_of_foreign (by decide)
  have only : ∀ ofFirst ofSecond, engine.IsFollowedBy first ofFirst →
      engine.IsFollowedBy second ofSecond → ofFirst = [(9, 0x1A)] ∧ ofSecond = [] ∧
        engine.transport.TakesAll
          (requestFrames engine.config.clientId (ofFirst ++ ofSecond)) := by
    intro ofFirst ofSecond other otherToo
    rw [other.eq follows, otherToo.eq followsToo, own]
    exact ⟨rfl, rfl, takes⟩
  exact ⟨independent, only, (dispatch_comm independent fun ofFirst ofSecond other otherToo =>
    (only ofFirst ofSecond other otherToo).2.2).1⟩

end Engine

end HeatingBus
