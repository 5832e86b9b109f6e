import HeatingBus.Proofs.Engine.Knowledge

/-!
# The life cycle of a device

What applications hear of an address. While it stays in the bitmap there is nothing to hear of it,
or it is discovered once and updated from then on, always as the same device; while it is not in the
bitmap there is nothing to hear. The events are those that the calls give rise to, wherever the sink
leads; what a dispatch returns is the event as far as the sink lets it through.
-/

namespace HeatingBus

open Registry

/-- Whether some events are the life of one device: it is discovered, if there is anything to tell
of it at all, and then it is updated. -/
def IsLifeCycle (events : List BusEvent) : Prop :=
  events = [] ∨ ∃ discovered updates, events = discovered :: updates ∧
    discovered.kind = .discovered ∧
    ∀ update ∈ updates, update.kind = .updated ∧ update.device = discovered.device

namespace Engine

/-! ## Events of calls -/

def reportOf? (engine : Engine) : Call → Option BusEvent
  | .dispatch telegram => engine.report? telegram
  | _ => none

def reports (engine : Engine) : List Call → List BusEvent
  | [] => []
  | call :: rest => (engine.reportOf? call).toList ++ (engine.perform call).reports rest

def eventsOf (engine : Engine) (address : BusAddress) (calls : List Call) : List BusEvent :=
  (engine.reports calls).filter (·.device.address = address)

def IsUpdate (engine : Engine) (telegram : Telegram) : Prop :=
  telegram.isReadRequest = false ∧ telegram.identification ≠ onlineMessage ∧
    engine.registry.isIdentified (withoutReadFlag telegram.source) = true ∧
    ∃ layout, engine.messages.get? telegram.identification = some layout ∧
      telegram.window.FitsInto layout

section
variable {engine : Engine} {address : BusAddress} {call : Call} {rest : List Call}
  {event : BusEvent} {telegram : Telegram} {info : DeviceInfo}

theorem reportOf?_eq_some_iff :
    engine.reportOf? call = some event ↔
      ∃ telegram, call = .dispatch telegram ∧ engine.report? telegram = some event := by
  cases call <;> simp [reportOf?]

theorem eventsOf_cons_of_silent
    (silent : ∀ event, engine.reportOf? call = some event → event.device.address ≠ address) :
    engine.eventsOf address (call :: rest) = (engine.perform call).eventsOf address rest := by
  rw [eventsOf, reports, List.filter_append, eventsOf]
  cases reported : engine.reportOf? call with
  | none => rfl
  | some event => simp [silent event reported]

theorem eventsOf_cons_of_reported (reported : engine.reportOf? call = some event)
    (own : event.device.address = address) :
    engine.eventsOf address (call :: rest) =
      event :: (engine.perform call).eventsOf address rest := by
  rw [eventsOf, reports, List.filter_append, eventsOf, reported]
  simp [own]

/-! ## Events of telegrams -/

/-- What goes with the event of a telegram: it is about the source of the telegram, which is a known
device from then on, and the bitmap has not changed. -/
structure IsReport (engine : Engine) (telegram : Telegram) (event : BusEvent) : Prop where
  address : event.device.address = withoutReadFlag telegram.source
  known : (engine.perform (.dispatch telegram)).registry.deviceInfo? telegram.source =
    some event.device
  bitmap : (engine.perform (.dispatch telegram)).registry.bitmap = engine.registry.bitmap
  kinds : event.kind = .updated ∧
      engine.registry.deviceInfo? telegram.source = some event.device ∨
    event.kind = .discovered ∧ engine.registry.state telegram.source = .onlineUnidentified ∧
      ∃ product, engine.Introduces telegram product ∧
        event.device = (Device.new (withoutReadFlag telegram.source) product).info

theorem isReport_of_report? (consistent : engine.registry.IsConsistent)
    (reported : engine.report? telegram = some event) : engine.IsReport telegram event := by
  obtain ⟨after, course, follows⟩ := exists_course engine telegram
  have slot := (slotOf_withoutReadFlag telegram.source).symm
  -- Only an update of a known device and an introduction come with an event.
  rw [reported] at course
  cases course with
  | update layout device outcome told catalogued other identified parsed =>
    have own := consistent.own_address _ device identified
    rw [withoutReadFlag_withoutReadFlag] at own
    have known : engine.registry.deviceInfo? telegram.source = some device.info := by
      rw [deviceInfo?, device?_congr slot, identified, Option.map_some]
    refine ⟨own, ?_, ?_, .inl ⟨rfl, known⟩⟩
    · rw [perform, follows.agrees.deviceInfo?, deviceInfo?_absorb, known]
      rfl
    · rw [perform, follows.agrees.bitmap, bitmap_absorb]
  | introduction layout product outcome told catalogued own waiting recognised =>
    refine ⟨rfl, ?_, ?_, .inr ⟨rfl, ?_, product, ?_, rfl⟩⟩
    · rw [perform, follows.agrees.deviceInfo?, deviceInfo?_identify_self waiting slot,
        withoutReadFlag_withoutReadFlag]
      rfl
    · rw [perform, follows.agrees.bitmap, bitmap_identify]
    · rw [state_congr slot, waiting]
    · exact introduces_of_recognises told catalogued own recognised

/-- Whoever there is something to hear of is in the bitmap. -/
theorem IsReport.isOnline (report : engine.IsReport telegram event)
    (consistent : engine.registry.IsConsistent) :
    engine.registry.bitmap.isOnline event.device.address = true := by
  obtain ⟨device, identified, _⟩ := Option.map_eq_some_iff.mp report.known
  rw [← device?_congr (slotOf_withoutReadFlag telegram.source)] at identified
  have after := isConsistent_perform consistent (.dispatch telegram)
  rw [report.address, ← report.bitmap]
  exact after.isOnline_of_device? (withoutReadFlag_lt telegram.source) identified

/-- The devices that are updated are the identified ones, and they are updated by every telegram
that brings an update. -/
theorem exists_updated_iff (filed : engine.registry.IsFiled engine.messages) :
    (∃ event, engine.report? telegram = some event ∧ event.kind = .updated) ↔
      engine.IsUpdate telegram := by
  obtain ⟨after, course, _⟩ := exists_course engine telegram
  -- A telegram fits into what is kept of a message if it fits into the one of the catalogue.
  have own : ∀ {layout device}, engine.messages.get? telegram.identification = some layout →
      engine.registry.device? (withoutReadFlag telegram.source) = some device →
      (device.cachedOrNew layout).message.layout = layout := by
    intro layout device catalogued identified
    rw [← MessageCatalog.identification_of_get? catalogued] at catalogued
    rw [← recollect_of_device identified, layout_recollect filed catalogued]
  constructor
  · rintro ⟨event, reported, updated⟩
    rw [reported] at course
    cases course with
    | update layout device outcome told catalogued other identified parsed =>
      have fits := (Message.parse_eq_ok_iff.mp parsed).1
      rw [own catalogued identified] at fits
      refine ⟨told, other, ?_, layout, catalogued, fits⟩
      rw [isIdentified, identified]
      rfl
    | introduction => cases updated
  · rintro ⟨told, other, identified, layout, catalogued, fits⟩
    rw [isIdentified, Option.isSome_iff_exists] at identified
    obtain ⟨device, identified⟩ := identified
    generalize reported : engine.report? telegram = event at course
    cases course with
    | idle silent => simp [told, catalogued, other, identified] at silent
    | presence _ _ _ online => exact absurd online other
    | misfit found present _ known _ identifiedToo sticks =>
      rw [own known identifiedToo] at sticks
      rw [catalogued, Option.some.injEq] at known
      rw [← known] at sticks
      exact absurd fits sticks
    | update found present outcome => exact ⟨_, rfl, rfl⟩
    | introduction _ _ _ _ _ _ waiting =>
      rw [device?, waiting] at identified
      cases identified

/-- The devices that are discovered are those that wait to be identified, by every version message
that names a product. -/
theorem exists_discovered_iff (consistent : engine.registry.IsConsistent) :
    (∃ event, engine.report? telegram = some event ∧ event.kind = .discovered) ↔
      engine.registry.state telegram.source = .onlineUnidentified ∧
        ∃ product, engine.Introduces telegram product := by
  constructor
  · rintro ⟨event, reported, discovered⟩
    rcases (isReport_of_report? consistent reported).kinds with
      ⟨updated, _⟩ | ⟨_, waiting, product, introduces, _⟩
    · rw [updated] at discovered
      cases discovered
    · exact ⟨waiting, product, introduces⟩
  · rintro ⟨waiting, product, introduces⟩
    obtain ⟨layout, outcome, catalogued, recognised⟩ := introduces.exists_recognises
    rw [← state_congr (slotOf_withoutReadFlag telegram.source)] at waiting
    exact ⟨_, report?_of_recognises introduces.told catalogued introduces.own waiting recognised,
      rfl⟩

end

/-! ## Addresses that stay -/

def StaysOnline (engine : Engine) (address : BusAddress) (calls : List Call) : Prop :=
  ∀ part, part <+: calls → (engine.run part).registry.bitmap.isOnline address = true

instance (engine : Engine) (address : BusAddress) (calls : List Call) :
    Decidable (engine.StaysOnline address calls) :=
  inferInstanceAs (Decidable (∀ part, part <+: calls → _))

/-- A longest stretch of a run in which an address stays in the bitmap: the call that it arrives
with, the calls that it stays for, and the calls from that one on that it is gone after. -/
structure IsStay (start : Engine) (calls : List Call) (address : BusAddress) (earlier : List Call)
    (arrival : Call) (later rest : List Call) : Prop where
  split : calls = earlier ++ arrival :: (later ++ rest)
  absent : (start.run earlier).registry.bitmap.isOnline address = false
  stays : ((start.run earlier).perform arrival).StaysOnline address later
  ends : ∀ call, rest.head? = some call →
    (((start.run earlier).perform arrival).run
      (later ++ [call])).registry.bitmap.isOnline address = false

section
variable {engine start : Engine} {address : BusAddress} {call arrival : Call}
  {calls earlier later part rest : List Call} {info : DeviceInfo}

theorem StaysOnline.online (stays : engine.StaysOnline address calls) :
    engine.registry.bitmap.isOnline address = true :=
  stays [] List.nil_prefix

theorem StaysOnline.tail (stays : engine.StaysOnline address (call :: rest)) :
    (engine.perform call).StaysOnline address rest :=
  fun _ cut => stays _ (List.cons_prefix_cons.mpr ⟨rfl, cut⟩)

theorem staysOnline_nil (online : engine.registry.bitmap.isOnline address = true) :
    engine.StaysOnline address [] := by
  intro part cut
  rwa [List.prefix_nil.mp cut]

theorem StaysOnline.concat (stays : engine.StaysOnline address calls)
    (online : (engine.run (calls ++ [call])).registry.bitmap.isOnline address = true) :
    engine.StaysOnline address (calls ++ [call]) := by
  intro part cut
  rcases List.prefix_concat_iff.mp cut with rfl | cut
  · exact online
  · exact stays part cut

theorem lt_of_isOnline {bitmap : OnlineBitmap} (online : bitmap.isOnline address = true) :
    address < 128 := by
  have mapped := OnlineBitmap.hasBit_of_isOnline online
  have bound : address.toNat < 128 := Nat.lt_trans mapped.2 (by decide)
  exact UInt8.lt_iff_toNat_lt.mpr bound

theorem state_of_absent (consistent : engine.registry.IsConsistent) (bound : address < 128)
    (absent : engine.registry.bitmap.isOnline address = false) :
    engine.registry.state address = .offline := by
  by_contra present
  have online := (consistent.present_iff address bound).mp present
  rw [absent] at online
  cases online

theorem deviceInfo?_perform_of_online (consistent : engine.registry.IsConsistent)
    (known : engine.registry.deviceInfo? address = some info)
    (online : (engine.perform call).registry.bitmap.isOnline address = true) :
    (engine.perform call).registry.deviceInfo? address = some info := by
  cases call with
  | dispatch telegram =>
    obtain ⟨after, course, follows⟩ := exists_course engine telegram
    rw [perform, follows.agrees.bitmap] at online
    rw [perform, follows.agrees.deviceInfo?]
    exact deviceInfo?_of_online consistent course known (lt_of_isOnline online) online
  | setValue target identification name value =>
    rw [perform]
    rcases registry_setValue with same | ⟨layout, _, mentioned⟩
    · rw [same, known]
    · rw [mentioned, deviceInfo?_mention, known]
  | readRequest target identification => exact known
  | surroundings transport => exact known

/-- From then on that a device is known, there are updates of it to hear and nothing else. -/
theorem updates_of_known (consistent : engine.registry.IsConsistent)
    (known : engine.registry.deviceInfo? address = some info)
    (stays : engine.StaysOnline address calls) :
    ∀ event ∈ engine.eventsOf address calls, event.kind = .updated ∧ event.device = info := by
  induction calls generalizing engine with
  | nil => simp [eventsOf, reports]
  | cons call rest inductionHypothesis =>
    have later := inductionHypothesis (isConsistent_perform consistent call)
      (deviceInfo?_perform_of_online consistent known stays.tail.online) stays.tail
    have plain := withoutReadFlag_eq_of_lt (lt_of_isOnline stays.online)
    by_cases own : ∃ event, engine.reportOf? call = some event ∧ event.device.address = address
    · obtain ⟨event, reported, own⟩ := own
      rw [eventsOf_cons_of_reported reported own, List.forall_mem_cons]
      refine ⟨?_, later⟩
      obtain ⟨telegram, rfl, reported⟩ := reportOf?_eq_some_iff.mp reported
      have report := isReport_of_report? consistent reported
      have slot : slotOf telegram.source = slotOf address := by
        rw [slotOf_eq_iff, plain, ← own, report.address]
      -- A device that is known already does not wait to be introduced.
      rcases report.kinds with ⟨updated, same⟩ | ⟨_, waiting, _⟩
      · rw [deviceInfo?, device?_congr slot, ← deviceInfo?, known, Option.some.injEq] at same
        exact ⟨updated, same.symm⟩
      · rw [state_congr slot] at waiting
        rw [deviceInfo?, device?, waiting] at known
        cases known
    · rw [eventsOf_cons_of_silent fun event reported same => own ⟨event, reported, same⟩]
      exact later

/-- The events of a device that is not known to begin with, while it stays in the bitmap. -/
theorem isLifeCycle_eventsOf (consistent : engine.registry.IsConsistent)
    (unknown : engine.registry.deviceInfo? address = none)
    (stays : engine.StaysOnline address calls) : IsLifeCycle (engine.eventsOf address calls) := by
  induction calls generalizing engine with
  | nil => exact .inl rfl
  | cons call rest inductionHypothesis =>
    have after := isConsistent_perform consistent call
    have plain := withoutReadFlag_eq_of_lt (lt_of_isOnline stays.online)
    cases known : (engine.perform call).registry.deviceInfo? address with
    | none =>
      -- An event about the address would have left the device known.
      rw [eventsOf_cons_of_silent]
      · exact inductionHypothesis after known stays.tail
      · intro event reported own
        obtain ⟨telegram, rfl, reported⟩ := reportOf?_eq_some_iff.mp reported
        have report := isReport_of_report? consistent reported
        have slot : slotOf telegram.source = slotOf address := by
          rw [slotOf_eq_iff, plain, ← own, report.address]
        have found := report.known
        rw [deviceInfo?, device?_congr slot, ← deviceInfo?, known] at found
        cases found
    | some info =>
      -- The call has introduced the device, and from then on there are updates only.
      rcases deviceInfo?_perform known with
        before | ⟨_, version, rfl, _, product, _, named, outcome, reported⟩
      · rw [unknown] at before
        cases before
      · have own : info.address = address := by
          rw [named]
          exact plain
        have told : engine.reportOf? (.dispatch version) = some (discovery info outcome) := reported
        rw [eventsOf_cons_of_reported told own]
        exact .inr ⟨_, _, rfl, rfl, updates_of_known after known stays.tail⟩

/-! ## Stays of a run -/

theorem StaysOnline.exists_extension (stays : engine.StaysOnline address part) (rest : List Call) :
    ∃ more others, rest = more ++ others ∧ engine.StaysOnline address (part ++ more) ∧
      ∀ call, others.head? = some call →
        (engine.run (part ++ more ++ [call])).registry.bitmap.isOnline address = false := by
  induction rest generalizing part with
  | nil => exact ⟨[], [], rfl, by rwa [List.append_nil], by simp⟩
  | cons call rest inductionHypothesis =>
    cases online : (engine.run (part ++ [call])).registry.bitmap.isOnline address with
    | false =>
      -- The address goes away with this call, so the stretch ends right before it.
      refine ⟨[], call :: rest, rfl, by rwa [List.append_nil], fun next first => ?_⟩
      rw [List.head?_cons, Option.some.injEq] at first
      rwa [List.append_nil, ← first]
    | true =>
      obtain ⟨more, others, rfl, longer, ends⟩ := inductionHypothesis (stays.concat online)
      refine ⟨call :: more, others, rfl, ?_, ?_⟩
      · rwa [List.append_cons]
      · rwa [List.append_cons]

/-- An address that is in the bitmap has arrived with some call, and has stayed since. -/
theorem exists_arrival (new : start.registry = .empty)
    (online : (start.run calls).registry.bitmap.isOnline address = true) :
    ∃ earlier arrival part, calls = earlier ++ arrival :: part ∧
      (start.run earlier).registry.bitmap.isOnline address = false ∧
      ((start.run earlier).perform arrival).StaysOnline address part := by
  induction calls using List.reverseRecOn with
  | nil =>
    have present := (isConsistent_of_new new).present_iff address (lt_of_isOnline online)
    exact absurd (state_of_new new address) (present.mpr online)
  | append_singleton calls call inductionHypothesis =>
    cases before : (start.run calls).registry.bitmap.isOnline address with
    | false =>
      rw [run_concat] at online
      exact ⟨calls, call, [], rfl, before, staysOnline_nil online⟩
    | true =>
      obtain ⟨earlier, arrival, part, rfl, absent, stays⟩ := inductionHypothesis before
      refine ⟨earlier, arrival, part ++ [call], by simp, absent, stays.concat ?_⟩
      simpa using online

end

/-- An address that is in the bitmap after a call stays for a stretch of the run that the call
belongs to, or that it begins with. -/
theorem exists_isStay {start : Engine} (new : start.registry = .empty) {address : BusAddress}
    {before after : List Call} {call : Call}
    (online : (start.run before).registry.bitmap.isOnline address = true)
    (still : (start.run (before ++ [call])).registry.bitmap.isOnline address = true) :
    ∃ earlier arrival part more rest, before = earlier ++ arrival :: part ∧
      IsStay start (before ++ call :: after) address earlier arrival (part ++ call :: more)
        rest := by
  obtain ⟨earlier, arrival, part, rfl, absent, stays⟩ := exists_arrival new online
  have longer : ((start.run earlier).perform arrival).StaysOnline address (part ++ [call]) :=
    stays.concat (by simpa using still)
  obtain ⟨more, rest, rfl, longest, ends⟩ := longer.exists_extension after
  rw [← List.append_cons] at longest ends
  exact ⟨earlier, arrival, part, more, rest, rfl, by simp, absent, longest, ends⟩

theorem IsStay.isLifeCycle {start : Engine} (new : start.registry = .empty) {calls : List Call}
    {address : BusAddress} {earlier later rest : List Call} {arrival : Call}
    (stay : IsStay start calls address earlier arrival later rest) :
    IsLifeCycle (((start.run earlier).perform arrival).eventsOf address later) := by
  have consistent := isConsistent_run earlier (isConsistent_of_new new)
  have offline := state_of_absent consistent (lt_of_isOnline stay.stays.online) stay.absent
  refine isLifeCycle_eventsOf (isConsistent_perform consistent arrival) ?_ stay.stays
  -- Only who is in the bitmap already can be introduced.
  by_contra known
  obtain ⟨info, known⟩ := Option.ne_none_iff_exists'.mp known
  rcases deviceInfo?_perform known with before | ⟨waiting, _⟩
  · rw [deviceInfo?, device?, offline] at before
    cases before
  · rw [offline] at waiting
    cases waiting

/-- What applications hear in the calls of a new engine. In every stretch of the run in which an
address stays in the bitmap its events are a life cycle, and no other event is about the address. A
device is discovered by the first version message that introduces a product while the address waits
to be identified, and as that product, the first of its number in the catalogue. It is updated by
every telegram that brings an update to one of its messages, and by no other. -/
theorem reports_run {start : Engine} (new : start.registry = .empty) (calls : List Call) :
    (∀ address earlier arrival later rest,
      IsStay start calls address earlier arrival later rest →
        IsLifeCycle (((start.run earlier).perform arrival).eventsOf address later)) ∧
    ∀ before telegram after, calls = before ++ .dispatch telegram :: after →
      let engine := start.run before
      (∀ outcome, (engine.dispatch telegram).1 = .ok outcome →
        outcome = (engine.report? telegram).bind start.sink.deliver) ∧
      (∀ error, (engine.dispatch telegram).1 = .error (.failed error) →
        engine.report? telegram = none) ∧
      (∀ event, engine.report? telegram = some event →
        event.device.address = withoutReadFlag telegram.source ∧
        (∃ earlier arrival part more rest, before = earlier ++ arrival :: part ∧
          IsStay start calls event.device.address earlier arrival
            (part ++ .dispatch telegram :: more) rest) ∧
        (event.kind = .discovered → ∃ product, start.Introduces telegram product ∧
          event.device =
            { address := withoutReadFlag telegram.source
              productId := product.id
              productName := product.name
              deviceType := product.deviceType
              variant := product.variant
              readOnly := product.readOnly })) ∧
      ((∃ event, engine.report? telegram = some event ∧ event.kind = .discovered) ↔
        engine.registry.state telegram.source = .onlineUnidentified ∧
          ∃ product, start.Introduces telegram product) ∧
      ((∃ event, engine.report? telegram = some event ∧ event.kind = .updated) ↔
        engine.IsUpdate telegram) := by
  refine ⟨fun address earlier arrival later rest stay => stay.isLifeCycle new, ?_⟩
  rintro before telegram after rfl engine
  have consistent : engine.registry.IsConsistent :=
    isConsistent_run before (isConsistent_of_new new)
  have filed : engine.registry.IsFiled engine.messages :=
    isFiled_run before (isFiled_of_new new _)
  obtain ⟨_, _, follows⟩ := exists_course engine telegram
  refine ⟨fun outcome told => ?_, follows.silent, fun event reported => ?_, ?_,
    exists_updated_iff filed⟩
  · rw [← sink_run before]
    exact follows.told outcome told
  · have report := isReport_of_report? consistent reported
    have online := report.isOnline consistent
    refine ⟨report.address, exists_isStay new online ?_, fun discovered => ?_⟩
    · rw [run_concat, report.bitmap]
      exact online
    · rcases report.kinds with ⟨updated, _⟩ | ⟨_, _, product, introduces, own⟩
      · rw [updated] at discovered
        cases discovered
      · exact ⟨product, (introduces_run_iff before).mp introduces, own⟩
  · rw [exists_discovered_iff consistent]
    exact and_congr_right fun _ => exists_congr fun _ => introduces_run_iff before

def boilerStay : List Call :=
  [.dispatch (.sealed 8 0 versionMessage 0 [123, 1, 2]),
    .dispatch (.sealed 8 0 0x1A 0 [60, 100, 0, 1]),
    .dispatch (.sealed 8 0 versionMessage 0 [123, 1, 3])]

/-- The boiler is discovered as the first product of its number, and updated until it goes away. -/
theorem reports_run_of_boiler :
    let arrival := Call.dispatch (.sealed 8 0 onlineMessage 0 [1])
    let departure := Call.dispatch (.sealed 8 0 onlineMessage 0 [0])
    let version := Telegram.sealed 8 0 versionMessage 0 [123, 1, 2]
    let events := (boilerEngine.perform arrival).eventsOf 8 boilerStay
    boilerEngine.registry = .empty ∧
      IsStay boilerEngine (arrival :: (boilerStay ++ [departure])) 8 [] arrival boilerStay
        [departure] ∧
      IsLifeCycle events ∧ events.map BusEvent.kind = [.discovered, .updated, .updated] ∧
      ∃ event, (boilerEngine.perform arrival).report? version = some event ∧
        boilerEngine.Introduces version ⟨123, .boiler, "Boiler", .none, false⟩ ∧
        event.device =
          { address := 8
            productId := 123
            productName := "Boiler"
            deviceType := .boiler
            variant := .none
            readOnly := false } := by
  intro arrival departure version events
  have new : boilerEngine.registry = .empty := rfl
  obtain ⟨lives, tells⟩ := reports_run new (arrival :: (boilerStay ++ [departure]))
  have stay : IsStay boilerEngine (arrival :: (boilerStay ++ [departure])) 8 [] arrival boilerStay
      [departure] := by
    refine ⟨rfl, by decide +kernel, by decide +kernel, fun call first => ?_⟩
    cases first
    decide +kernel
  have kinds : events.map BusEvent.kind = [.discovered, .updated, .updated] := by decide +kernel
  have discovered : ((boilerEngine.perform arrival).report? version).map BusEvent.kind =
      some .discovered := by
    decide +kernel
  obtain ⟨event, reported, kind⟩ := Option.map_eq_some_iff.mp discovered
  obtain ⟨_, _, introduced⟩ := (tells [arrival] version _ rfl).2.2.1 event reported
  obtain ⟨product, introduces, own⟩ := introduced kind
  have source : withoutReadFlag version.source = 8 := by decide
  rw [source] at own
  -- The catalogue lists no other product.
  obtain ⟨_, _, listed, _⟩ := introduces.first
  have member : product ∈ boilerEngine.devices.products :=
    listed ▸ List.mem_append_right _ List.mem_cons_self
  obtain rfl := List.mem_singleton.mp member
  exact ⟨new, stay, lives 8 [] arrival boilerStay [departure] stay, kinds, event, reported,
    introduces, own⟩

end Engine

end HeatingBus
