import HeatingBus.Proofs.Engine.Run
import HeatingBus.Proofs.Registry.Knowledge

/-!
# The course of a telegram

What a telegram makes of the registry, and the event that it gives rise to. Of the six ways in which
a telegram is handled some come to the same: whatever is not the broadcast of the bitmap, not about
an identified device and identifies none changes nothing. What is said here leaves the orders of
events aside, and with them the queues that the engine sends to and the sink that it reports to.
-/

namespace HeatingBus

namespace Engine

/-! ## Events -/

/-- The engine with nothing in the way of its events: requests fail at once, since the queues are
not connected, and a listener hears all that is reported. -/
def unhindered (engine : Engine) : Engine :=
  { engine with transport := engine.transport.disconnect, sink := .listener }

/-- The event that a telegram gives rise to, whatever becomes of the requests that go before it and
wherever the sink leads. -/
def report? (engine : Engine) (telegram : Telegram) : Option BusEvent :=
  match (engine.unhindered.dispatch telegram).1 with
  | .ok event => event
  | .error _ => none

def discovery (device : DeviceInfo) (outcome : Update) : BusEvent :=
  ⟨.discovered, device, outcome.message, outcome.message.fieldNames outcome.changed⟩

def news (device : DeviceInfo) (outcome : Update) : BusEvent :=
  ⟨.updated, device, outcome.message, outcome.message.fieldNames outcome.changed⟩

section
variable {engine after : Engine} {source : BusAddress} {product : Product} {version : Message}
  {changed : List Nat} {layout : MessageLayout} {payload : Bytes} {offset : Nat} {outcome : Update}

/-- Requests that cannot be sent fail, and so they hold nothing up. -/
theorem request_of_disconnected (apart : engine.transport.outbound = none)
    (followUps : List FollowUp) : (engine.request followUps).1 = .ok () := by
  induction followUps generalizing engine with
  | nil => rfl
  | cons followUp rest inductionHypothesis =>
    have refused : ∀ entries, ((engine.say entries).readRequest followUp.address
        followUp.identification) = (.error (.failed (.connection .outboundNotConnected)),
          (engine.say entries).say [.debug ("Reading message 0x" ++
            Text.hexByteUpper followUp.identification ++ " from 0x" ++
            Text.hexByte followUp.address)]) := by
      intro entries
      simp only [readRequest, send, Transport.send, say, Transport.say, apart]
    rw [request, refused]
    exact inductionHypothesis apart

/-! ## Identification -/

/-- A product that an address reports without being asked for one is of no concern. -/
theorem enter_of_not_waiting (settled : engine.registry.state source ≠ .onlineUnidentified) :
    (engine.enter source product version changed).1 = .ok none ∧
      (engine.enter source product version changed).2.registry = engine.registry := by
  simp only [enter, Registry.found_identify_of_not_waiting settled]
  exact ⟨trivial, Registry.identify_of_not_waiting settled⟩

theorem sink_of_request {followUps : List FollowUp} {result : Except Halt Unit}
    (requested : engine.request followUps = (result, after)) : after.sink = engine.sink := by
  obtain ⟨transport, same⟩ := exists_transport_request engine followUps
  rw [requested] at same
  obtain rfl : after = { engine with transport } := same
  rfl

/-- Once a device is entered, nothing but the ticket of its version message goes on. -/
theorem agrees_enter (engine : Engine) :
    (engine.registry.identify source product version).registry.Agrees
      (engine.enter source product version changed).2.registry := by
  have entered : engine.registry.MayIdentify source product version
    (engine.enter source product version changed).2.registry := registry_enter
  rcases entered with entered | ⟨ticket, entered⟩
  · rw [entered]
    exact .refl _
  · rw [entered]
    exact Registry.agrees_dropTicket _ ticket

/-- What is reported of a device that is entered, if the requests for its first messages get through
at all. -/
theorem event_enter (waiting : engine.registry.state source = .onlineUnidentified)
    {event : Option BusEvent}
    (entered : (engine.enter source product outcome.message outcome.changed).1 = .ok event) :
    event = engine.sink.deliver
      (discovery (Device.new (withoutReadFlag source) product).info outcome) := by
  simp only [enter, Registry.identify, waiting] at entered
  split at entered
  · cases entered
  · rename_i after requested
    have same := sink_of_request requested
    cases entered
    rw [notify, same]
    rfl

theorem enter_of_disconnected (waiting : engine.registry.state source = .onlineUnidentified)
    (apart : engine.transport.outbound = none) :
    (engine.enter source product outcome.message outcome.changed).1 =
      .ok (engine.sink.deliver
        (discovery (Device.new (withoutReadFlag source) product).info outcome)) := by
  cases entered : (engine.enter source product outcome.message outcome.changed).1 with
  | ok event => rw [event_enter waiting entered]
  | error halt =>
    simp only [enter, Registry.identify, waiting] at entered
    split at entered
    · rename_i requested
      have through := congrArg Prod.fst requested
      rw [request_of_disconnected] at through
      · cases through
      · exact apart
    · cases entered

end

/-- Whether a version message, taken on its own, says that a device is some product. -/
def Recognises (engine : Engine) (layout : MessageLayout) (window : Window) (outcome : Update)
    (product : Product) : Prop :=
  (Message.new layout).parse window.bytes window.offset = .ok outcome ∧
    ∃ id, reportedProduct? outcome.message = some id ∧ engine.product? id = some product

section
variable {engine : Engine} {source : BusAddress} {layout : MessageLayout} {window : Window}
  {outcome : Update} {product : Product}

theorem identify_of_recognises (recognised : engine.Recognises layout window outcome product) :
    engine.identify source layout window.bytes window.offset =
      (engine.say outcome.notes).enter source product outcome.message outcome.changed := by
  obtain ⟨parsed, id, reported, found⟩ := recognised
  have found : (engine.say outcome.notes).product? id = some product := found
  simp only [identify, parsed, reported, found]

/-- A version message that names no product of the catalogue is of no consequence. -/
theorem identify_of_not_recognises
    (vain : ∀ outcome product, ¬ engine.Recognises layout window outcome product) :
    (engine.identify source layout window.bytes window.offset).2.registry = engine.registry ∧
      ∀ event, (engine.identify source layout window.bytes window.offset).1 = .ok event →
        event = none := by
  rw [identify]
  split
  · exact ⟨rfl, fun event reported => by cases reported⟩
  · rename_i outcome parsed
    simp only
    split
    · exact ⟨rfl, fun event reported => by cases reported; rfl⟩
    · rename_i id reported
      split
      · exact ⟨rfl, fun event reported => by cases reported; rfl⟩
      · rename_i product found
        exact absurd ⟨parsed, id, reported, found⟩ (vain outcome product)

end

/-! ## Courses -/

/-- What a telegram makes of the registry, but for the orders of events, and the event that it gives
rise to. -/
inductive Course (engine : Engine) (telegram : Telegram) : Registry → Option BusEvent → Prop where
  | idle (silent : telegram.isReadRequest = true ∨
        engine.messages.get? telegram.identification = none ∨
        telegram.identification = onlineMessage ∨
        engine.registry.device? (withoutReadFlag telegram.source) = none) :
      Course engine telegram engine.registry none
  | presence (layout : MessageLayout) (told : telegram.isReadRequest = false)
      (known : engine.messages.get? telegram.identification = some layout)
      (online : telegram.identification = onlineMessage) (fits : telegram.window.FitsInto layout) :
      Course engine telegram
        (engine.registry.applyOnlineUpdate telegram.payload telegram.offset.toNat).registry none
  /-- A message of an identified device that the telegram does not fit into. -/
  | misfit (layout : MessageLayout) (device : Device) (told : telegram.isReadRequest = false)
      (known : engine.messages.get? telegram.identification = some layout)
      (other : telegram.identification ≠ onlineMessage)
      (identified : engine.registry.device? (withoutReadFlag telegram.source) = some device)
      (sticks : ¬ telegram.window.FitsInto (device.cachedOrNew layout).message.layout) :
      Course engine telegram
        (engine.registry.absorb (withoutReadFlag telegram.source) layout telegram.window) none
  | update (layout : MessageLayout) (device : Device) (outcome : Update)
      (told : telegram.isReadRequest = false)
      (known : engine.messages.get? telegram.identification = some layout)
      (other : telegram.identification ≠ onlineMessage)
      (identified : engine.registry.device? (withoutReadFlag telegram.source) = some device)
      (parsed : (device.cachedOrNew layout).message.parse telegram.window.bytes
        telegram.window.offset = .ok outcome) :
      Course engine telegram
        (engine.registry.absorb (withoutReadFlag telegram.source) layout telegram.window)
        (some (news device.info outcome))
  | introduction (layout : MessageLayout) (product : Product) (outcome : Update)
      (told : telegram.isReadRequest = false)
      (known : engine.messages.get? telegram.identification = some layout)
      (own : telegram.identification = versionMessage)
      (waiting : engine.registry.state (withoutReadFlag telegram.source) = .onlineUnidentified)
      (recognised : engine.Recognises layout telegram.window outcome product) :
      Course engine telegram
        (engine.registry.identify (withoutReadFlag telegram.source) product
          outcome.message).registry
        (some (discovery (Device.new (withoutReadFlag telegram.source) product).info outcome))

/-- How the outcome of a dispatch follows from its course: the registry differs in the orders of
events at most, and the application is told of the event if the sink lets it through. A telegram
that fails has no event. -/
structure Follows (engine : Engine) (telegram : Telegram) (after : Registry)
    (event : Option BusEvent) : Prop where
  agrees : after.Agrees (engine.dispatch telegram).2.registry
  reported : engine.report? telegram = event
  told : ∀ found, (engine.dispatch telegram).1 = .ok found → found = event.bind engine.sink.deliver
  silent : ∀ error, (engine.dispatch telegram).1 = .error (.failed error) → event = none

section
variable {engine : Engine} {telegram : Telegram} {layout : MessageLayout} {device : Device}
  {after : Registry} {event : Option BusEvent}

theorem report?_of_ok (dispatched : (engine.unhindered.dispatch telegram).1 = .ok event) :
    engine.report? telegram = event := by
  rw [report?, dispatched]

/-- A telegram is of no consequence to any event if neither the engine nor the unhindered one
reports anything. -/
theorem Follows.of_silent (agrees : after.Agrees (engine.dispatch telegram).2.registry)
    (unheard : ∀ found, (engine.unhindered.dispatch telegram).1 = .ok found → found = none)
    (told : ∀ found, (engine.dispatch telegram).1 = .ok found → found = none) :
    engine.Follows telegram after none := by
  refine ⟨agrees, ?_, told, fun _ _ => rfl⟩
  rw [report?]
  split
  · rename_i found dispatched
    exact unheard found dispatched
  · rfl

theorem dispatch_of_asked (asked : telegram.isReadRequest = true) :
    engine.dispatch telegram = (.ok none, engine) := by
  simp only [dispatch, asked, if_true]

theorem dispatch_of_unknown (told : telegram.isReadRequest = false)
    (unknown : engine.messages.get? telegram.identification = none) :
    engine.dispatch telegram =
      (.error (.failed (.unknownMessage telegram.identification)), engine) := by
  simp only [dispatch, told, Bool.false_eq_true, if_false, unknown]

theorem dispatch_of_broadcast (told : telegram.isReadRequest = false)
    (known : engine.messages.get? telegram.identification = some layout)
    (online : telegram.identification = onlineMessage) :
    engine.dispatch telegram =
      ((engine.updatePresence layout telegram.window.bytes telegram.window.offset).1.map
        fun () => none,
      (engine.updatePresence layout telegram.window.bytes telegram.window.offset).2) := by
  simp only [dispatch, told, Bool.false_eq_true, if_false, known, if_pos online]
  rfl

theorem dispatch_of_kept (told : telegram.isReadRequest = false)
    (known : engine.messages.get? telegram.identification = some layout)
    (other : telegram.identification ≠ onlineMessage)
    (identified : engine.registry.device? (withoutReadFlag telegram.source) = some device) :
    engine.dispatch telegram = engine.keep (withoutReadFlag telegram.source) device layout
      telegram.window.bytes telegram.window.offset := by
  simp only [dispatch, told, Bool.false_eq_true, if_false, known, if_neg other, identified]
  rfl

theorem dispatch_of_version (told : telegram.isReadRequest = false)
    (known : engine.messages.get? telegram.identification = some layout)
    (own : telegram.identification = versionMessage)
    (unidentified : engine.registry.device? (withoutReadFlag telegram.source) = none) :
    engine.dispatch telegram = engine.identify (withoutReadFlag telegram.source) layout
      telegram.window.bytes telegram.window.offset := by
  have other : telegram.identification ≠ onlineMessage := by
    rw [own]
    decide
  simp only [dispatch, told, Bool.false_eq_true, if_false, known, if_neg other, unidentified,
    if_pos own]
  rfl

theorem dispatch_of_shown (told : telegram.isReadRequest = false)
    (known : engine.messages.get? telegram.identification = some layout)
    (other : telegram.identification ≠ onlineMessage)
    (foreign : telegram.identification ≠ versionMessage)
    (unidentified : engine.registry.device? (withoutReadFlag telegram.source) = none) :
    engine.dispatch telegram = engine.showUnidentified (withoutReadFlag telegram.source) layout
      telegram.window.bytes telegram.window.offset := by
  simp only [dispatch, told, Bool.false_eq_true, if_false, known, if_neg other, unidentified,
    if_neg foreign]
  rfl

/-- A broadcast of the bitmap is never reported. -/
theorem silent_of_online (known : engine.messages.get? telegram.identification = some layout)
    (online : telegram.identification = onlineMessage) (found : Option BusEvent)
    (dispatched : (engine.dispatch telegram).1 = .ok found) : found = none := by
  simp only [dispatch, known, if_pos online] at dispatched
  split at dispatched
  · cases dispatched
    rfl
  · cases updated : (engine.updatePresence layout telegram.payload telegram.offset.toNat).1 with
    | ok value =>
      rw [updated] at dispatched
      cases dispatched
      rfl
    | error halt =>
      rw [updated] at dispatched
      cases dispatched

/-- A message that is only shown is never reported. -/
theorem silent_of_shown (known : engine.messages.get? telegram.identification = some layout)
    (other : telegram.identification ≠ onlineMessage)
    (foreign : telegram.identification ≠ versionMessage)
    (unidentified : engine.registry.device? (withoutReadFlag telegram.source) = none)
    (found : Option BusEvent) (dispatched : (engine.dispatch telegram).1 = .ok found) :
    found = none := by
  simp only [dispatch, known, if_neg other, unidentified, if_neg foreign, showUnidentified]
    at dispatched
  split at dispatched
  · cases dispatched
    rfl
  · split at dispatched
    · cases dispatched
    · cases dispatched
      rfl

theorem exists_course_of_kept (told : telegram.isReadRequest = false)
    (known : engine.messages.get? telegram.identification = some layout)
    (other : telegram.identification ≠ onlineMessage)
    (identified : engine.registry.device? (withoutReadFlag telegram.source) = some device) :
    ∃ after event, engine.Course telegram after event ∧ engine.Follows telegram after event := by
  have handled := dispatch_of_kept told known other identified
  have heard : engine.unhindered.dispatch telegram = engine.unhindered.keep
      (withoutReadFlag telegram.source) device layout telegram.window.bytes
        telegram.window.offset :=
    dispatch_of_kept told known other identified
  have absorbed : engine.registry.absorb (withoutReadFlag telegram.source) layout telegram.window =
      _ := Registry.absorb_of_device identified
  by_cases fits : telegram.window.FitsInto (device.cachedOrNew layout).message.layout
  · have parsed := (device.cachedOrNew layout).message.parse_of_fits fits
    refine ⟨_, _, .update layout device _ told known other identified parsed, ?_, ?_, ?_, ?_⟩
    · rw [handled, registry_keep fits, absorbed]
      exact Registry.agrees_store identified rfl
    · apply report?_of_ok
      simp only [heard, keep, parsed]
      rfl
    · intro found reported
      simp only [handled, keep, parsed] at reported
      cases reported
      rfl
    · intro error failed
      rw [handled] at failed
      exact absurd failed (keep_ne_failed fits)
  · refine ⟨_, _, .misfit layout device told known other identified fits, .of_silent ?_ ?_ ?_⟩
    · rw [handled, keep_of_not_fits fits, absorbed, Message.absorb_of_not_fits fits]
      exact .refl _
    · rw [heard, keep_of_not_fits fits]
      simp
    · rw [handled, keep_of_not_fits fits]
      simp

/-- A device that waits to be identified is reported as the product that its version message
names. -/
theorem report?_of_recognises {product : Product} {outcome : Update}
    (told : telegram.isReadRequest = false)
    (known : engine.messages.get? telegram.identification = some layout)
    (own : telegram.identification = versionMessage)
    (waiting : engine.registry.state (withoutReadFlag telegram.source) = .onlineUnidentified)
    (recognised : engine.Recognises layout telegram.window outcome product) :
    engine.report? telegram =
      some (discovery (Device.new (withoutReadFlag telegram.source) product).info outcome) := by
  have unidentified : engine.unhindered.registry.device? (withoutReadFlag telegram.source) = none :=
    congrArg AddressState.device? waiting
  have recognisedToo : engine.unhindered.Recognises layout telegram.window outcome product :=
    recognised
  apply report?_of_ok
  rw [dispatch_of_version told (by exact known) own unidentified,
    identify_of_recognises recognisedToo, enter_of_disconnected (by exact waiting) (by exact rfl),
    withoutReadFlag_withoutReadFlag]
  rfl

theorem exists_course_of_version (told : telegram.isReadRequest = false)
    (known : engine.messages.get? telegram.identification = some layout)
    (own : telegram.identification = versionMessage)
    (unidentified : engine.registry.device? (withoutReadFlag telegram.source) = none) :
    ∃ after event, engine.Course telegram after event ∧ engine.Follows telegram after event := by
  have handled := dispatch_of_version told known own unidentified
  have heard : engine.unhindered.dispatch telegram = engine.unhindered.identify
      (withoutReadFlag telegram.source) layout telegram.window.bytes telegram.window.offset :=
    dispatch_of_version told known own unidentified
  have idle : engine.Course telegram engine.registry none :=
    .idle (.inr (.inr (.inr unidentified)))
  by_cases named : ∃ outcome product, engine.Recognises layout telegram.window outcome product
  · obtain ⟨outcome, product, recognised⟩ := named
    rw [identify_of_recognises recognised] at handled
    have recognisedToo : engine.unhindered.Recognises layout telegram.window outcome product :=
      recognised
    rw [identify_of_recognises recognisedToo] at heard
    by_cases waiting : engine.registry.state (withoutReadFlag telegram.source) =
        .onlineUnidentified
    · refine ⟨_, _, .introduction layout product outcome told known own waiting recognised,
        ?_, ?_, ?_, ?_⟩
      · rw [handled]
        exact agrees_enter (engine.say outcome.notes)
      · exact report?_of_recognises told known own waiting recognised
      · intro found reported
        rw [handled] at reported
        have same := event_enter (by exact waiting) reported
        rw [withoutReadFlag_withoutReadFlag] at same
        exact same
      · intro error failed
        rw [handled] at failed
        exact absurd failed enter_ne_failed
    · have settled : engine.registry.state (withoutReadFlag telegram.source) ≠
          .onlineUnidentified := waiting
      refine ⟨_, _, idle, .of_silent ?_ ?_ ?_⟩
      · rw [handled, (enter_of_not_waiting (by exact settled)).2]
        exact .refl _
      · rw [heard, (enter_of_not_waiting (by exact settled)).1]
        simp
      · rw [handled, (enter_of_not_waiting (by exact settled)).1]
        simp
  · have vain : ∀ outcome product, ¬ engine.Recognises layout telegram.window outcome product :=
      fun outcome product recognised => named ⟨outcome, product, recognised⟩
    have vainToo : ∀ outcome product,
        ¬ engine.unhindered.Recognises layout telegram.window outcome product := vain
    refine ⟨_, _, idle, .of_silent ?_ ?_ ?_⟩
    · rw [handled, (identify_of_not_recognises vain).1]
      exact .refl _
    · rw [heard]
      exact (identify_of_not_recognises vainToo).2
    · rw [handled]
      exact (identify_of_not_recognises vain).2

/-- Every telegram takes one of the courses. -/
theorem exists_course (engine : Engine) (telegram : Telegram) :
    ∃ after, engine.Course telegram after (engine.report? telegram) ∧
      engine.Follows telegram after (engine.report? telegram) := by
  suffices ∃ after event, engine.Course telegram after event ∧
      engine.Follows telegram after event by
    obtain ⟨after, event, course, follows⟩ := this
    refine ⟨after, ?_⟩
    rw [follows.reported]
    exact ⟨course, follows⟩
  cases engine.handling telegram with
  | passed asked handled =>
    refine ⟨_, _, .idle (.inl asked), .of_silent ?_ ?_ ?_⟩
    · rw [handled]
      exact .refl _
    · simp [dispatch, asked]
    · simp [handled]
  | refused told unknown handled =>
    refine ⟨_, _, .idle (.inr (.inl unknown)), .of_silent ?_ ?_ ?_⟩
    · rw [handled]
      exact .refl _
    · have unknownToo : engine.unhindered.messages.get? telegram.identification = none := unknown
      simp [dispatch, told, unknownToo]
    · simp [handled]
  | presence layout told known online handled =>
    by_cases fits : telegram.window.FitsInto layout
    · refine ⟨_, _, .presence layout told known online fits, .of_silent ?_ ?_ ?_⟩
      · rw [handled]
        show Registry.Agrees _ (engine.updatePresence layout telegram.window.bytes
          telegram.window.offset).2.registry
        rw [registry_updatePresence fits]
        exact .refl _
      · exact silent_of_online (by exact known) online
      · exact silent_of_online known online
    · refine ⟨_, _, .idle (.inr (.inr (.inl online))), .of_silent ?_ ?_ ?_⟩
      · rw [handled]
        show Registry.Agrees _ (engine.updatePresence layout telegram.window.bytes
          telegram.window.offset).2.registry
        rw [updatePresence_of_not_fits fits]
        exact .refl _
      · exact silent_of_online (by exact known) online
      · exact silent_of_online known online
  | kept layout device told known other identified handled =>
    exact exists_course_of_kept told known other identified
  | version layout told known own unidentified handled =>
    exact exists_course_of_version told known own unidentified
  | shown layout told known other foreign unidentified handled =>
    refine ⟨_, _, .idle (.inr (.inr (.inr unidentified))), .of_silent ?_ ?_ ?_⟩
    · rw [handled]
      show Registry.Agrees _ (engine.showUnidentified _ layout telegram.window.bytes
        telegram.window.offset).2.registry
      rw [registry_showUnidentified]
      exact .refl _
    · exact silent_of_shown (by exact known) other foreign (by exact unidentified)
    · exact silent_of_shown known other foreign unidentified

end

end Engine

end HeatingBus
