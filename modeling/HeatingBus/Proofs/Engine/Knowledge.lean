import HeatingBus.Proofs.Engine.Course
import HeatingBus.Proofs.Engine.Presence
import Mathlib.Data.List.Infix

/-!
# What an engine comes to know

How the calls of an engine move what is known of one address. A device becomes known through a
version message alone, and from then on every message of it takes in what its telegrams bring; a
call of any other kind adds at most an empty message. All messages that are kept are messages of the
catalogue.
-/

namespace HeatingBus

open Registry

/-- Whether every message that is kept is the one of the catalogue for its code. -/
def Registry.IsFiled (registry : Registry) (catalog : MessageCatalog) : Prop :=
  ∀ address identification message, registry.message? address identification = some message →
    catalog.get? identification = some message.layout

def Telegram.Tells (telegram : Telegram) (address identification : UInt8) : Prop :=
  telegram.isReadRequest = false ∧ withoutReadFlag telegram.source = withoutReadFlag address ∧
    telegram.identification = identification

instance (telegram : Telegram) (address identification : UInt8) :
    Decidable (telegram.Tells address identification) :=
  inferInstanceAs (Decidable (_ ∧ _ ∧ _))

namespace Engine

/-- Whether a version message makes a device known: it reports the number of a product, and the
product is the first one of that number in the catalogue. -/
structure Introduces (engine : Engine) (version : Telegram) (product : Product) : Prop where
  told : version.isReadRequest = false
  own : version.identification = versionMessage
  reported : ∃ layout outcome number, engine.messages.get? versionMessage = some layout ∧
    (Message.new layout).parse version.payload version.offset.toNat = .ok outcome ∧
    reportedProduct? outcome.message = some number ∧ number.toInt = product.id.toNat
  first : ∃ earlier later, engine.devices.products = earlier ++ product :: later ∧
    ∀ other ∈ earlier, other.id ≠ product.id

section
variable {engine : Engine} {telegram : Telegram} {address : UInt8} {after : Registry}
  {event : Option BusEvent} {layout : MessageLayout} {info : DeviceInfo} {product : Product}
  {outcome : Update}

/-! ## Introductions -/

/-- The product of a number is the first one of the catalogue that has it. -/
theorem product?_eq_some_iff {number : Int64} :
    engine.product? number = some product ↔
      number.toInt = product.id.toNat ∧
        ∃ earlier later, engine.devices.products = earlier ++ product :: later ∧
          ∀ other ∈ earlier, other.id ≠ product.id := by
  constructor
  · intro found
    unfold product? at found
    split at found
    · rename_i range
      obtain ⟨same, earlier, later, split, before⟩ := List.find?_eq_some_iff_append.mp found
      have own : product.id = UInt8.ofNat number.toInt.toNat := of_decide_eq_true same
      refine ⟨?_, earlier, later, split, fun other member => ?_⟩
      · rw [own, UInt8.toNat_ofNat']
        omega
      · have unlike := before other member
        rw [own]
        simpa using unlike
    · cases found
  · rintro ⟨same, earlier, later, split, before⟩
    have bound := product.id.toNat_lt
    have own : UInt8.ofNat number.toInt.toNat = product.id := by
      rw [same, Int.toNat_natCast, UInt8.ofNat_toNat]
    rw [product?, if_pos (by omega), own, DeviceCatalog.lookup?]
    exact List.find?_eq_some_iff_append.mpr
      ⟨by simp, earlier, later, split, fun other member => by simpa using before other member⟩

theorem introduces_of_recognises (told : telegram.isReadRequest = false)
    (known : engine.messages.get? telegram.identification = some layout)
    (own : telegram.identification = versionMessage)
    (recognised : engine.Recognises layout telegram.window outcome product) :
    engine.Introduces telegram product := by
  obtain ⟨parsed, number, reported, found⟩ := recognised
  obtain ⟨same, first⟩ := product?_eq_some_iff.mp found
  rw [own] at known
  exact ⟨told, own, ⟨layout, outcome, number, known, parsed, reported, same⟩, first⟩

/-- A version message that makes a device known names a product by itself. -/
theorem Introduces.exists_recognises (introduces : engine.Introduces telegram product) :
    ∃ layout outcome, engine.messages.get? telegram.identification = some layout ∧
      engine.Recognises layout telegram.window outcome product := by
  obtain ⟨told, own, ⟨layout, outcome, number, known, parsed, reported, same⟩, first⟩ := introduces
  rw [own]
  exact ⟨layout, outcome, known, parsed, number, reported, product?_eq_some_iff.mpr ⟨same, first⟩⟩

/-! ## Devices -/

/-- A device that is known after a telegram was known before, or the telegram has introduced it. -/
theorem deviceInfo?_of_course (course : engine.Course telegram after event)
    (known : after.deviceInfo? address = some info) :
    engine.registry.deviceInfo? address = some info ∨
      engine.registry.state address = .onlineUnidentified ∧
        withoutReadFlag telegram.source = withoutReadFlag address ∧
        ∃ product, engine.Introduces telegram product ∧
          info = (Device.new (withoutReadFlag address) product).info ∧
          ∃ outcome, event = some (discovery info outcome) := by
  cases course with
  | idle => exact .inl known
  | presence =>
    obtain ⟨device, identified, rfl⟩ := Option.map_eq_some_iff.mp known
    left
    rw [deviceInfo?, device?_of_applyOnlineUpdate identified, Option.map_some]
  | misfit | update => exact .inl (by rwa [deviceInfo?_absorb] at known)
  | introduction layout product outcome told catalogued own waiting recognised =>
    by_cases same : slotOf address = slotOf (withoutReadFlag telegram.source)
    · right
      have source := slotOf_eq_slotOf_withoutReadFlag_iff.mp same
      rw [deviceInfo?_identify_self waiting same, Option.some.injEq,
        withoutReadFlag_withoutReadFlag, ← source] at known
      refine ⟨?_, source.symm, product, introduces_of_recognises told catalogued own recognised,
        known.symm, outcome, ?_⟩
      · rw [state_congr same, waiting]
      · rw [← known, source]
    · exact .inl (by rwa [deviceInfo?_of_device? (device?_identify_of_ne same)] at known)

/-- A device that stays in the bitmap stays known. -/
theorem deviceInfo?_of_online (consistent : engine.registry.IsConsistent)
    (course : engine.Course telegram after event)
    (known : engine.registry.deviceInfo? address = some info) (bound : address < 128)
    (online : after.bitmap.isOnline address = true) : after.deviceInfo? address = some info := by
  obtain ⟨device, identified, rfl⟩ := Option.map_eq_some_iff.mp known
  cases course with
  | idle => exact known
  | presence layout told catalogued broadcast fits =>
    have same := consistent.slot_of_online bound identified online
    rw [deviceInfo?_of_device? (device?_of_slot same), known]
  | misfit | update => rw [deviceInfo?_absorb, known]
  | introduction layout product outcome told catalogued own waiting recognised =>
    have different : slotOf address ≠ slotOf (withoutReadFlag telegram.source) := by
      intro same
      rw [device?_congr same, device?, waiting] at identified
      cases identified
    rw [deviceInfo?_of_device? (device?_identify_of_ne different), known]

/-! ## Catalogued messages -/

/-- What is known of a message of the catalogue is of its layout. -/
theorem layout_recollect (filed : engine.registry.IsFiled engine.messages)
    (known : engine.messages.get? layout.identification = some layout) :
    (engine.registry.recollect address layout).layout = layout := by
  rw [recollect]
  cases kept : engine.registry.message? address layout.identification with
  | none => rfl
  | some message =>
    have same := filed address layout.identification message kept
    rw [known, Option.some.injEq] at same
    exact same.symm

/-- One message may be entered without disorder if it is the one of the catalogue. -/
theorem IsFiled.of_entered (filed : engine.registry.IsFiled engine.messages)
    (entered : ∀ place code message, after.message? place code = some message →
      engine.registry.message? place code = some message ∨
        code = layout.identification ∧ message.layout = layout)
    (known : engine.messages.get? layout.identification = some layout) :
    after.IsFiled engine.messages := by
  intro place code message kept
  rcases entered place code message kept with before | ⟨rfl, own⟩
  · exact filed place code message before
  · rw [known, own]

theorem isFiled_absorb (filed : engine.registry.IsFiled engine.messages) {source : UInt8}
    {device : Device} (identified : engine.registry.device? source = some device)
    (known : engine.messages.get? layout.identification = some layout) (window : Window) :
    (engine.registry.absorb source layout window).IsFiled engine.messages := by
  refine IsFiled.of_entered filed (fun place code message kept => ?_) known
  by_cases own : slotOf place = slotOf source ∧ code = layout.identification
  · obtain ⟨same, rfl⟩ := own
    rw [message?_absorb_self identified same, Option.some.injEq] at kept
    rw [← kept, Message.layout_absorb, layout_recollect filed known]
    exact .inr ⟨rfl, rfl⟩
  · rw [message?_absorb_elsewhere fun same => not_and.mp own same] at kept
    exact .inl kept

theorem isFiled_mention (filed : engine.registry.IsFiled engine.messages) {target : UInt8}
    (known : engine.messages.get? layout.identification = some layout) :
    (engine.registry.mention target layout).IsFiled engine.messages := by
  refine IsFiled.of_entered filed (fun place code message kept => ?_) known
  rcases message?_of_mention kept with before | ⟨own, rfl⟩
  · exact .inl before
  · exact .inr ⟨own, rfl⟩

theorem isFiled_of_course (filed : engine.registry.IsFiled engine.messages)
    (course : engine.Course telegram after event) : after.IsFiled engine.messages := by
  cases course with
  | idle => exact filed
  | presence =>
    intro place code message kept
    exact filed place code message (message?_of_applyOnlineUpdate kept)
  | misfit layout device told known other identified sticks =>
    rw [← MessageCatalog.identification_of_get? known] at known
    exact isFiled_absorb filed identified known _
  | update layout device outcome told known other identified parsed =>
    rw [← MessageCatalog.identification_of_get? known] at known
    exact isFiled_absorb filed identified known _
  | introduction layout product outcome told known own waiting recognised =>
    have code : layout.identification = telegram.identification :=
      MessageCatalog.identification_of_get? known
    have own : outcome.message.layout = layout := by
      rw [← Message.absorb_of_parse recognised.1, Message.layout_absorb]
      rfl
    rw [← code] at known
    refine IsFiled.of_entered filed (fun place code message kept => ?_) known
    by_cases same : slotOf place = slotOf (withoutReadFlag telegram.source)
    · rw [message?_identify_self waiting same] at kept
      split at kept
      · rename_i version
        cases kept
        rw [version, Message.identification, own]
        exact .inr ⟨rfl, rfl⟩
      · cases kept
    · rw [message?_of_device? (device?_identify_of_ne same)] at kept
      exact .inl kept

/-! ## Updates of messages -/

def windowsOf (address : UInt8) (layout : MessageLayout) (telegram : Telegram) : List Window :=
  if telegram.Tells address layout.identification ∧ telegram.window.FitsInto layout then
    [telegram.window]
  else []

/-- A telegram that brings nothing to a message, or brings something that does not fit, is of no
consequence to it. -/
theorem foldl_windowsOf {message : Message} (own : message.layout = layout)
    (tells : telegram.Tells address layout.identification) :
    (windowsOf address layout telegram).foldl Message.absorb message =
      message.absorb telegram.window := by
  by_cases fits : telegram.window.FitsInto layout
  · rw [windowsOf, if_pos ⟨tells, fits⟩]
    rfl
  · rw [windowsOf, if_neg (fun both => fits both.2)]
    rw [← own] at fits
    rw [Message.absorb_of_not_fits fits]
    rfl

theorem windowsOf_of_not_tells (silent : ¬ telegram.Tells address layout.identification) :
    windowsOf address layout telegram = [] :=
  if_neg fun both => silent both.1

/-- A message of which a telegram tells something is kept from then on, if the device is known. -/
theorem message?_of_tells (course : engine.Course telegram after event)
    (known : engine.messages.get? layout.identification = some layout)
    (other : layout.identification ≠ onlineMessage) (identified : after.device? address ≠ none)
    (tells : telegram.Tells address layout.identification) :
    after.message? address layout.identification =
      some ((engine.registry.recollect address layout).absorb telegram.window) := by
  obtain ⟨told, source, code⟩ := tells
  have same : slotOf address = slotOf (withoutReadFlag telegram.source) :=
    slotOf_eq_slotOf_withoutReadFlag_iff.mpr source.symm
  have only : ∀ found, engine.messages.get? telegram.identification = some found →
      found = layout := by
    intro found catalogued
    rw [code, known, Option.some.injEq] at catalogued
    exact catalogued.symm
  rw [← code] at known other
  cases course with
  | idle silent =>
    -- A telegram of an unknown device leaves it unknown, and any other silence is excluded.
    rcases silent with asked | unknown | online | unidentified
    · rw [told] at asked
      cases asked
    · rw [known] at unknown
      cases unknown
    · exact absurd online other
    · rw [device?_congr same] at identified
      exact absurd unidentified identified
  | presence found told catalogued online fits => exact absurd online other
  | misfit found device told catalogued _ present sticks =>
    obtain rfl := only found catalogued
    rw [message?_absorb_self present same, recollect_congr same]
  | update found device outcome told catalogued _ present parsed =>
    obtain rfl := only found catalogued
    rw [message?_absorb_self present same, recollect_congr same]
  | introduction found product outcome told catalogued own waiting recognised =>
    obtain rfl := only found catalogued
    have before : engine.registry.device? address = none := by
      rw [device?_congr same, device?, waiting]
      rfl
    have version : found.identification = outcome.message.identification := by
      rw [← Message.absorb_of_parse recognised.1, Message.identification, Message.layout_absorb]
      rfl
    rw [recollect_of_unidentified before, Message.absorb_of_parse recognised.1]
    exact (message?_identify_self waiting same).trans (if_pos version)

theorem message?_of_not_tells (course : engine.Course telegram after event)
    (identified : after.device? address ≠ none)
    (silent : ¬ telegram.Tells address layout.identification) :
    after.message? address layout.identification =
      engine.registry.message? address layout.identification := by
  -- A telegram that is no read request tells nothing as its source or its code is another one.
  have elsewhere : telegram.isReadRequest = false →
      slotOf address = slotOf (withoutReadFlag telegram.source) →
        layout.identification ≠ telegram.identification := by
    intro told same code
    exact silent ⟨told, (slotOf_eq_slotOf_withoutReadFlag_iff.mp same).symm, code.symm⟩
  cases course with
  | idle => rfl
  | presence =>
    obtain ⟨device, present⟩ := Option.ne_none_iff_exists'.mp identified
    exact message?_of_device? (present.trans (device?_of_applyOnlineUpdate present).symm)
  | misfit found device told catalogued =>
    rw [← MessageCatalog.identification_of_get? catalogued] at elsewhere
    exact message?_absorb_elsewhere (elsewhere told)
  | update found device outcome told catalogued =>
    rw [← MessageCatalog.identification_of_get? catalogued] at elsewhere
    exact message?_absorb_elsewhere (elsewhere told)
  | introduction found product outcome told catalogued own waiting recognised =>
    by_cases same : slotOf address = slotOf (withoutReadFlag telegram.source)
    · have before : engine.registry.device? address = none := by
        rw [device?_congr same, device?, waiting]
        rfl
      have version : outcome.message.identification = telegram.identification := by
        rw [← Message.absorb_of_parse recognised.1, Message.identification, Message.layout_absorb]
        exact MessageCatalog.identification_of_get? catalogued
      rw [message?_of_unidentified before, message?_identify_self waiting same, version,
        if_neg (elsewhere told same)]
    · exact message?_of_device? (device?_identify_of_ne same)

/-- The message of a device that is known after a telegram has taken in what the telegram brings. -/
theorem recollect_of_course (filed : engine.registry.IsFiled engine.messages)
    (course : engine.Course telegram after event)
    (known : engine.messages.get? layout.identification = some layout)
    (other : layout.identification ≠ onlineMessage)
    (identified : after.device? address ≠ none) :
    after.recollect address layout =
      (windowsOf address layout telegram).foldl Message.absorb
        (engine.registry.recollect address layout) := by
  by_cases tells : telegram.Tells address layout.identification
  · rw [foldl_windowsOf (layout_recollect filed known) tells]
    exact recollect_of_message? (message?_of_tells course known other identified tells)
  · rw [windowsOf_of_not_tells tells, List.foldl_nil, recollect, recollect,
      message?_of_not_tells course identified tells]

/-- A message that a telegram brings an update to, or that was kept before, is kept while the device
is known. -/
theorem isSome_message?_of_course (course : engine.Course telegram after event)
    (known : engine.messages.get? layout.identification = some layout)
    (other : layout.identification ≠ onlineMessage) (identified : after.device? address ≠ none)
    (kept : windowsOf address layout telegram ≠ [] ∨
      (engine.registry.message? address layout.identification).isSome = true) :
    (after.message? address layout.identification).isSome = true := by
  by_cases tells : telegram.Tells address layout.identification
  · rw [message?_of_tells course known other identified tells, Option.isSome_some]
  · rw [message?_of_not_tells course identified tells]
    exact kept.resolve_left fun updated => updated (windowsOf_of_not_tells tells)

end

/-! ## Calls -/

/-- The update that a call brings to a message of an address, if it brings one. Writes and requests
bring none. -/
def Call.windows (address : UInt8) (layout : MessageLayout) : Call → List Window
  | .dispatch telegram => windowsOf address layout telegram
  | _ => []

section
variable {engine : Engine} {address identification : UInt8} {name : String} {value : Value}
  {layout : MessageLayout} {info : DeviceInfo} {call : Call}

/-- What a write makes of the registry: it mentions a message of the catalogue at most. -/
theorem registry_setValue :
    (engine.setValue address identification name value).2.registry = engine.registry ∨
      ∃ layout, engine.messages.get? layout.identification = some layout ∧
        (engine.setValue address identification name value).2.registry =
          engine.registry.mention (withoutReadFlag address) layout := by
  by_cases reached : ∃ layout, engine.Reaches address identification name layout
  · obtain ⟨layout, reaches⟩ := reached
    have known := reaches
    obtain ⟨_, _, writable, _⟩ := known
    have catalogued := get?_of_writableLayout writable
    rw [← MessageCatalog.identification_of_get? catalogued] at catalogued
    exact .inr ⟨layout, catalogued, registry_setValue_of_reaches reaches⟩
  · exact .inl (registry_setValue_of_not_reaches (not_exists.mp reached))

theorem exists_parts_enter (engine : Engine) (source : BusAddress) (product : Product)
    (version : Message) (changed : List Nat) :
    ∃ registry transport, (engine.enter source product version changed).2 =
      { engine with registry, transport } := by
  simp only [enter]
  split
  · exact ⟨_, _, rfl⟩
  · split
    · rename_i after requested
      obtain ⟨transport, same⟩ := exists_transport_request _ _
      rw [requested] at same
      exact ⟨_, _, same⟩
    · rename_i after requested
      obtain ⟨transport, same⟩ := exists_transport_request _ _
      rw [requested] at same
      obtain rfl : after = _ := same
      exact ⟨_, _, rfl⟩

theorem exists_parts_dispatch (engine : Engine) (telegram : Telegram) :
    ∃ registry transport, (engine.dispatch telegram).2 = { engine with registry, transport } := by
  cases engine.handling telegram with
  | passed asked handled => exact ⟨_, _, congrArg Prod.snd handled⟩
  | refused told unknown handled => exact ⟨_, _, congrArg Prod.snd handled⟩
  | presence layout told known online handled =>
    rw [handled, updatePresence]
    split
    · exact ⟨_, _, rfl⟩
    · obtain ⟨transport, requested⟩ := exists_transport_request _ _
      exact ⟨_, _, requested⟩
  | kept layout device told known other identified handled =>
    rw [handled, keep]
    split <;> exact ⟨_, _, rfl⟩
  | version layout told known own unidentified handled =>
    rw [handled, identify]
    split
    · exact ⟨_, _, rfl⟩
    · simp only
      split
      · exact ⟨_, _, rfl⟩
      · split
        · exact ⟨_, _, rfl⟩
        · exact exists_parts_enter _ _ _ _ _
  | shown layout told known other foreign unidentified handled =>
    rw [handled, showUnidentified]
    split <;> exact ⟨_, _, rfl⟩

theorem exists_parts_setValue (engine : Engine) (address identification : UInt8) (name : String)
    (value : Value) :
    ∃ registry transport, (engine.setValue address identification name value).2 =
      { engine with registry, transport } := by
  simp only [setValue]
  split
  · exact ⟨_, _, rfl⟩
  · split
    · exact ⟨_, _, rfl⟩
    · split
      · exact ⟨_, _, rfl⟩
      · split <;> exact ⟨_, _, rfl⟩

/-- A call moves the registry and the transport, and nothing else. -/
theorem exists_parts_perform (engine : Engine) (call : Call) :
    ∃ registry transport, engine.perform call = { engine with registry, transport } := by
  cases call with
  | dispatch telegram => exact exists_parts_dispatch engine telegram
  | setValue address identification name value => exact exists_parts_setValue engine _ _ _ _
  | readRequest address identification => exact ⟨_, _, rfl⟩
  | surroundings transport => exact ⟨_, _, rfl⟩

theorem messages_perform (engine : Engine) (call : Call) :
    (engine.perform call).messages = engine.messages := by
  obtain ⟨registry, transport, same⟩ := exists_parts_perform engine call
  rw [same]

theorem isFiled_perform (filed : engine.registry.IsFiled engine.messages) (call : Call) :
    (engine.perform call).registry.IsFiled engine.messages := by
  cases call with
  | dispatch telegram =>
    obtain ⟨after, course, follows⟩ := exists_course engine telegram
    intro place code message kept
    rw [perform, follows.agrees.message?] at kept
    exact isFiled_of_course filed course place code message kept
  | setValue address identification name value =>
    rcases registry_setValue with same | ⟨layout, known, mentioned⟩
    · rw [perform, same]
      exact filed
    · rw [perform, mentioned]
      exact isFiled_mention filed known
  | readRequest address identification => exact filed
  | surroundings transport => exact filed

/-- A device that is known after a call was known before, or the call was the dispatch of a telegram
that has introduced it. -/
theorem deviceInfo?_perform
    (known : (engine.perform call).registry.deviceInfo? address = some info) :
    engine.registry.deviceInfo? address = some info ∨
      engine.registry.state address = .onlineUnidentified ∧
        ∃ version, call = .dispatch version ∧
          withoutReadFlag version.source = withoutReadFlag address ∧
          ∃ product, engine.Introduces version product ∧
            info = (Device.new (withoutReadFlag address) product).info ∧
            ∃ outcome, engine.report? version = some (discovery info outcome) := by
  cases call with
  | dispatch telegram =>
    obtain ⟨after, course, follows⟩ := exists_course engine telegram
    rw [perform, follows.agrees.deviceInfo?] at known
    rcases deviceInfo?_of_course course known with
      before | ⟨waiting, source, introduced⟩
    · exact .inl before
    · exact .inr ⟨waiting, telegram, rfl, source, introduced⟩
  | setValue address identification name value =>
    left
    rcases registry_setValue with same | ⟨layout, _, mentioned⟩
    · rwa [perform, same] at known
    · rwa [perform, mentioned, deviceInfo?_mention] at known
  | readRequest address identification => exact .inl known
  | surroundings transport => exact .inl known

/-- The message of a device that is known after a call has taken in what the call brings. -/
theorem recollect_perform (filed : engine.registry.IsFiled engine.messages)
    (known : engine.messages.get? layout.identification = some layout)
    (other : layout.identification ≠ onlineMessage)
    (identified : (engine.perform call).registry.device? address ≠ none) :
    (engine.perform call).registry.recollect address layout =
      (call.windows address layout).foldl Message.absorb
        (engine.registry.recollect address layout) := by
  cases call with
  | dispatch telegram =>
    obtain ⟨after, course, follows⟩ := exists_course engine telegram
    rw [perform] at identified ⊢
    rw [Ne, follows.agrees.device?_eq_none_iff] at identified
    rw [follows.agrees.recollect]
    exact recollect_of_course filed course known other identified
  | setValue target code name value =>
    rcases registry_setValue with same | ⟨mentioned, catalogued, entered⟩
    · rw [perform, same]
      rfl
    · rw [perform, entered]
      apply recollect_mention
      intro same
      rw [← same, known, Option.some.injEq] at catalogued
      exact catalogued
  | readRequest address identification => rfl
  | surroundings transport => rfl

/-- A message that a call brings an update to, or that was kept before, is kept while the device is
known. -/
theorem isSome_message?_perform
    (known : engine.messages.get? layout.identification = some layout)
    (other : layout.identification ≠ onlineMessage)
    (identified : (engine.perform call).registry.device? address ≠ none)
    (kept : call.windows address layout ≠ [] ∨
      (engine.registry.message? address layout.identification).isSome = true) :
    ((engine.perform call).registry.message? address layout.identification).isSome = true := by
  cases call with
  | dispatch telegram =>
    obtain ⟨after, course, follows⟩ := exists_course engine telegram
    rw [perform] at identified ⊢
    rw [Ne, follows.agrees.device?_eq_none_iff] at identified
    rw [follows.agrees.message?]
    exact isSome_message?_of_course course known other identified kept
  | setValue target code name value =>
    have before := kept.resolve_left fun updated => updated rfl
    rcases registry_setValue with same | ⟨mentioned, _, entered⟩
    · rwa [perform, same]
    · obtain ⟨message, before⟩ := Option.isSome_iff_exists.mp before
      rw [perform, entered, message?_mention_of_some before, Option.isSome_some]
  | readRequest target code => exact kept.resolve_left fun updated => updated rfl
  | surroundings transport => exact kept.resolve_left fun updated => updated rfl

end

/-! ## Runs -/

/-- What is to hold of every beginning of some calls can be checked. -/
instance {calls : List Call} {holds : List Call → Prop} [DecidablePred holds] :
    Decidable (∀ part, part <+: calls → holds part) :=
  decidable_of_iff (∀ part ∈ calls.inits, holds part) (by simp only [List.mem_inits])

@[simp] theorem run_append (start : Engine) (calls rest : List Call) :
    start.run (calls ++ rest) = (start.run calls).run rest :=
  List.foldl_append

@[simp] theorem run_cons (start : Engine) (call : Call) (rest : List Call) :
    start.run (call :: rest) = (start.perform call).run rest := rfl

@[simp] theorem run_nil (start : Engine) : start.run [] = start := rfl

theorem run_concat (start : Engine) (calls : List Call) (call : Call) :
    start.run (calls ++ [call]) = (start.run calls).perform call := by
  rw [run_append, run_cons, run_nil]

theorem exists_parts_run (start : Engine) (calls : List Call) :
    ∃ registry transport, start.run calls = { start with registry, transport } := by
  induction calls generalizing start with
  | nil => exact ⟨_, _, rfl⟩
  | cons call rest inductionHypothesis =>
    obtain ⟨registry, transport, first⟩ := exists_parts_perform start call
    rw [run_cons, first]
    exact inductionHypothesis _

section
variable {start : Engine} (calls : List Call)

theorem messages_run : (start.run calls).messages = start.messages := by
  obtain ⟨registry, transport, same⟩ := exists_parts_run start calls
  rw [same]

theorem config_run : (start.run calls).config = start.config := by
  obtain ⟨registry, transport, same⟩ := exists_parts_run start calls
  rw [same]

theorem sink_run : (start.run calls).sink = start.sink := by
  obtain ⟨registry, transport, same⟩ := exists_parts_run start calls
  rw [same]

theorem introduces_run_iff {version : Telegram} {product : Product} :
    (start.run calls).Introduces version product ↔ start.Introduces version product := by
  obtain ⟨registry, transport, same⟩ := exists_parts_run start calls
  rw [same]
  exact ⟨fun ⟨told, own, reported, first⟩ => ⟨told, own, reported, first⟩,
    fun ⟨told, own, reported, first⟩ => ⟨told, own, reported, first⟩⟩

theorem isConsistent_run (consistent : start.registry.IsConsistent) :
    (start.run calls).registry.IsConsistent := by
  induction calls generalizing start with
  | nil => exact consistent
  | cons call rest inductionHypothesis =>
    exact inductionHypothesis (isConsistent_perform consistent call)

theorem isFiled_run (filed : start.registry.IsFiled start.messages) :
    (start.run calls).registry.IsFiled (start.run calls).messages := by
  induction calls generalizing start with
  | nil => exact filed
  | cons call rest inductionHypothesis =>
    have first := isFiled_perform filed call
    rw [← messages_perform start call] at first
    exact inductionHypothesis first

end

/-- Nothing is known to begin with. -/
theorem state_of_new {start : Engine} (new : start.registry = .empty) (address : UInt8) :
    start.registry.state address = .offline := by
  rw [new, state, slot_eq_getElem, Registry.empty, Vector.getElem_replicate]

theorem device?_of_new {start : Engine} (new : start.registry = .empty) (address : UInt8) :
    start.registry.device? address = none := by
  rw [device?, state_of_new new]
  rfl

theorem isFiled_of_new {start : Engine} (new : start.registry = .empty) (catalog : MessageCatalog) :
    start.registry.IsFiled catalog := by
  intro address identification message kept
  rw [message?_of_unidentified (device?_of_new new address)] at kept
  cases kept

theorem isConsistent_of_new {start : Engine} (new : start.registry = .empty) :
    start.registry.IsConsistent := by
  rw [new]
  exact isConsistent_empty

end Engine

end HeatingBus
