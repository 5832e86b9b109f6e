import HeatingBus.Proofs.Engine.Knowledge
import HeatingBus.Proofs.OnlineBitmap.Order
import HeatingBus.Proofs.Telegram.Codec
import HeatingBus.Proofs.Transport.Room

/-!
# What telegrams are followed by

The read requests that an engine makes because of a telegram. Whoever turns up in the bitmap is
asked for its version, and a device that is identified is asked for its first messages. No other
telegram is followed by anything. As long as the outbound queue takes the requests, they are all
that is queued.
-/

namespace HeatingBus

open Registry

/-! ## Telegrams of requests -/

namespace Telegram

end Telegram

def requestFrames (client : BusAddress) (targets : List (BusAddress × UInt8)) : List Bytes :=
  targets.map fun target => (Telegram.readRequest client target.1 target.2).toBytes

theorem requestFrames_cons (client : BusAddress) (target : BusAddress × UInt8)
    (targets : List (BusAddress × UInt8)) :
    requestFrames client (target :: targets) =
      [(Telegram.readRequest client target.1 target.2).toBytes] ++ requestFrames client targets :=
  rfl

theorem requestFrames_append (client : BusAddress) (targets others : List (BusAddress × UInt8)) :
    requestFrames client (targets ++ others) =
      requestFrames client targets ++ requestFrames client others :=
  List.map_append

namespace Engine

/-! ## Requests -/

def FollowUp.target (followUp : FollowUp) : BusAddress × UInt8 :=
  (followUp.address, followUp.identification)

theorem enqueues_say (engine : Engine) (entries : List LogEntry) :
    engine.transport.Enqueues (engine.say entries).transport [] :=
  .of_same rfl rfl

section
variable {engine : Engine} {client : BusAddress}

theorem enqueues_readRequest (address : BusAddress) (identification : UInt8)
    (own : engine.config.clientId = client)
    (takes : engine.transport.TakesAll [(Telegram.readRequest client address
      identification).toBytes]) :
    (engine.readRequest address identification).1 = .ok () ∧
      engine.transport.Enqueues (engine.readRequest address identification).2.transport
        [(Telegram.readRequest client address identification).toBytes] := by
  subst own
  have told := engine.enqueues_say [LogEntry.debug ("Reading message 0x" ++
    Text.hexByteUpper identification ++ " from 0x" ++ Text.hexByte address)]
  obtain ⟨through, sent⟩ := Transport.enqueues_send (told.takesAll takes)
  exact ⟨through, told.trans sent⟩

/-- Requests whose frames are taken get through, one after the other. -/
theorem enqueues_request {followUps : List FollowUp} (own : engine.config.clientId = client)
    (takes : engine.transport.TakesAll
      (requestFrames client (followUps.map FollowUp.target))) :
    (engine.request followUps).1 = .ok () ∧
      engine.transport.Enqueues (engine.request followUps).2.transport
        (requestFrames client (followUps.map FollowUp.target)) := by
  induction followUps generalizing engine with
  | nil => exact ⟨rfl, .of_same rfl rfl⟩
  | cons followUp rest inductionHypothesis =>
    rw [List.map_cons, requestFrames_cons] at takes ⊢
    have told := engine.enqueues_say followUp.announcement
    have still : (engine.say followUp.announcement).config.clientId = client := own
    have answered := enqueues_readRequest followUp.address followUp.identification still
      (told.takesAll takes).left
    have config : ((engine.say followUp.announcement).readRequest followUp.address
        followUp.identification).2.config = engine.config := rfl
    rw [request]
    cases outcome : (engine.say followUp.announcement).readRequest followUp.address
        followUp.identification with
    | mk result next =>
      rw [outcome] at answered config
      obtain ⟨rfl, sent⟩ := answered
      -- The request gets through, and so the others are made in the engine that has sent it.
      have first := told.trans sent
      rw [← config] at own
      obtain ⟨through, later⟩ := inductionHypothesis own (first.takesAll takes)
      exact ⟨through, first.trans later⟩

/-- Requests get through as well after the engine has said something and has changed its mind about
the registry. -/
theorem enqueues_of_request (engine : Engine) {next after : Engine} {followUps : List FollowUp}
    {result : Except Halt Unit} (requested : next.request followUps = (result, after))
    (own : next.config.clientId = client) (said : engine.transport.Enqueues next.transport [])
    (takes : engine.transport.TakesAll
      (requestFrames client (followUps.map FollowUp.target))) :
    result = .ok () ∧
      engine.transport.Enqueues after.transport
        (requestFrames client (followUps.map FollowUp.target)) := by
  have sent := enqueues_request own (said.takesAll takes)
  rw [requested] at sent
  exact ⟨sent.1, said.trans sent.2⟩

end

/-! ## Telegrams that are followed by requests -/

/-- The addresses that turn up with a broadcast of a window of the bitmap, but for the one of the
engine itself. -/
def arrivals (engine : Engine) (window : Window) : List BusAddress :=
  (engine.registry.applyOnlineUpdate window.bytes window.offset).change.cameOnline.filter
    (· ≠ engine.config.clientId)

def Broadcasts (engine : Engine) (telegram : Telegram) : Prop :=
  telegram.isReadRequest = false ∧ telegram.identification = onlineMessage ∧
    ∃ layout, engine.messages.get? onlineMessage = some layout ∧ telegram.window.FitsInto layout

/-- Whether a telegram identifies the device of an address that waits for it. -/
def Settles (engine : Engine) (telegram : Telegram) (product : Product) : Prop :=
  engine.registry.state (withoutReadFlag telegram.source) = .onlineUnidentified ∧
    engine.Introduces telegram product

/-- What a telegram is followed by: the addresses and the messages that are asked for, in order. -/
inductive IsFollowedBy (engine : Engine) (telegram : Telegram) : List (BusAddress × UInt8) → Prop
  /-- Whoever has turned up is asked for its version, but for the engine itself. -/
  | arrivals (addresses : List BusAddress) (broadcasts : engine.Broadcasts telegram)
      (ascending : addresses.Pairwise (· < ·))
      (members : ∀ address, address ∈ addresses ↔
        engine.registry.bitmap.isOnline address = false ∧
          (engine.dispatch telegram).2.registry.bitmap.isOnline address = true ∧
          address ≠ engine.config.clientId) :
      IsFollowedBy engine telegram (addresses.map (·, versionMessage))
  | introduction (product : Product) (settles : engine.Settles telegram product) :
      IsFollowedBy engine telegram ((engine.devices.initialRequests product.deviceType).map
        (withoutReadFlag telegram.source, ·))
  | nothing (silent : ¬ engine.Broadcasts telegram)
      (unsettled : ∀ product, ¬ engine.Settles telegram product) :
      IsFollowedBy engine telegram []

section
variable {engine : Engine} {telegram : Telegram} {targets others : List (BusAddress × UInt8)}
  {product other : Product}

theorem pairwise_arrivals (engine : Engine) (window : Window) :
    (engine.arrivals window).Pairwise (· < ·) :=
  (OnlineBitmap.pairwise_addressesOf _).filter _

theorem mem_arrivals_iff {window : Window} {address : BusAddress} :
    address ∈ engine.arrivals window ↔
      engine.registry.bitmap.isOnline address = false ∧
        (engine.registry.applyOnlineUpdate window.bytes window.offset).registry.bitmap.isOnline
          address = true ∧ address ≠ engine.config.clientId := by
  rw [arrivals, List.mem_filter, decide_eq_true_iff, bitmap_applyOnlineUpdate, ← and_assoc]
  exact and_congr_left fun _ => OnlineBitmap.mem_cameOnline_iff

/-- A version message names one product. -/
theorem Introduces.eq (introduces : engine.Introduces telegram product)
    (introducesOther : engine.Introduces telegram other) : product = other := by
  obtain ⟨layout, outcome, known, parsed, number, reported, found⟩ := introduces.exists_recognises
  obtain ⟨layout', outcome', known', parsed', number', reported', found'⟩ :=
    introducesOther.exists_recognises
  rw [known, Option.some.injEq] at known'
  subst known'
  rw [parsed, Except.ok.injEq] at parsed'
  subst parsed'
  rw [reported, Option.some.injEq] at reported'
  subst reported'
  rwa [found, Option.some.injEq] at found'

theorem not_settles_of_broadcasts (broadcasts : engine.Broadcasts telegram) :
    ¬ engine.Settles telegram product := by
  rintro ⟨_, introduces⟩
  have version := introduces.own
  rw [broadcasts.2.1] at version
  cases version

/-- No telegram is followed by two lists of requests. -/
theorem IsFollowedBy.eq (follows : engine.IsFollowedBy telegram targets)
    (followsToo : engine.IsFollowedBy telegram others) : targets = others := by
  cases follows with
  | arrivals addresses broadcasts ascending members =>
    cases followsToo with
    | arrivals addresses' _ ascending' members' =>
      rw [OnlineBitmap.eq_of_ascending ascending ascending' fun address =>
        (members address).trans (members' address).symm]
    | introduction product settles => exact absurd settles (not_settles_of_broadcasts broadcasts)
    | nothing silent => exact absurd broadcasts silent
  | introduction product settles =>
    cases followsToo with
    | arrivals _ broadcasts => exact absurd settles (not_settles_of_broadcasts broadcasts)
    | introduction other settlesToo => rw [settles.2.eq settlesToo.2]
    | nothing _ unsettled => exact absurd settles (unsettled product)
  | nothing silent unsettled =>
    cases followsToo with
    | arrivals _ broadcasts => exact absurd broadcasts silent
    | introduction other settlesToo => exact absurd settlesToo (unsettled other)
    | nothing => rfl

end

/-! ## Dispatches -/

section
variable {engine : Engine} {telegram : Telegram} {source : BusAddress} {layout : MessageLayout}
  {window : Window} {device : Device} {product : Product} {targets : List (BusAddress × UInt8)}

theorem enqueues_keep {payload : Bytes} {offset : Nat} :
    (engine.keep source device layout payload offset).1 ≠ .error .waiting ∧
      engine.transport.Enqueues (engine.keep source device layout payload offset).2.transport
        [] := by
  rw [keep]
  split <;> exact ⟨by simp, .of_same rfl rfl⟩

theorem enqueues_showUnidentified {payload : Bytes} {offset : Nat} :
    (engine.showUnidentified source layout payload offset).1 ≠ .error .waiting ∧
      engine.transport.Enqueues
        (engine.showUnidentified source layout payload offset).2.transport [] := by
  rw [showUnidentified]
  split <;> exact ⟨by simp, .of_same rfl rfl⟩

theorem enqueues_updatePresence (fits : window.FitsInto layout)
    (takes : engine.transport.TakesAll
      (requestFrames engine.config.clientId ((engine.arrivals window).map (·, versionMessage)))) :
    (engine.updatePresence layout window.bytes window.offset).1 = .ok () ∧
      engine.transport.Enqueues
        (engine.updatePresence layout window.bytes window.offset).2.transport
        (requestFrames engine.config.clientId
          ((engine.arrivals window).map (·, versionMessage))) := by
  have targets : ((engine.arrivals window).map versionRequest).map FollowUp.target =
      (engine.arrivals window).map (·, versionMessage) := List.map_map
  rw [updatePresence, if_neg (Nat.not_lt.mpr fits)]
  rw [← targets] at takes ⊢
  exact enqueues_of_request engine rfl rfl (.of_same rfl rfl) takes

theorem enqueues_enter (version : Message) (changed : List Nat)
    (waiting : engine.registry.state source = .onlineUnidentified)
    (takes : engine.transport.TakesAll (requestFrames engine.config.clientId
      ((engine.devices.initialRequests product.deviceType).map (source, ·)))) :
    (engine.enter source product version changed).1 ≠ .error .waiting ∧
      engine.transport.Enqueues (engine.enter source product version changed).2.transport
        (requestFrames engine.config.clientId
          ((engine.devices.initialRequests product.deviceType).map (source, ·))) := by
  have targets : ((engine.devices.initialRequests product.deviceType).map
      (initialRequest source)).map FollowUp.target =
        (engine.devices.initialRequests product.deviceType).map (source, ·) := List.map_map
  rw [← targets] at takes ⊢
  simp only [enter, Registry.identify, waiting]
  split
  · rename_i halt after requested
    obtain ⟨through, _⟩ := enqueues_of_request engine requested rfl (.of_same rfl rfl) takes
    cases through
  · rename_i after requested
    obtain ⟨_, sent⟩ := enqueues_of_request engine requested rfl (.of_same rfl rfl) takes
    refine ⟨by simp, ?_⟩
    rw [← List.append_nil (requestFrames _ _)]
    exact sent.trans (.of_same rfl rfl)

theorem enqueues_enter_of_not_waiting (version : Message) (changed : List Nat)
    (settled : engine.registry.state source ≠ .onlineUnidentified) :
    engine.transport.Enqueues (engine.enter source product version changed).2.transport [] := by
  simp only [enter, found_identify_of_not_waiting settled]
  exact .of_same rfl rfl

theorem enqueues_identify_of_not_recognises
    (vain : ∀ outcome product, ¬ engine.Recognises layout window outcome product) :
    (engine.identify source layout window.bytes window.offset).1 ≠ .error .waiting ∧
      engine.transport.Enqueues
        (engine.identify source layout window.bytes window.offset).2.transport [] := by
  rw [identify]
  split
  · exact ⟨by simp, .of_same rfl rfl⟩
  · rename_i outcome parsed
    simp only
    split
    · exact ⟨by simp, .of_same rfl rfl⟩
    · rename_i id reported
      split
      · exact ⟨by simp, .of_same rfl rfl⟩
      · rename_i product found
        exact absurd ⟨parsed, id, reported, found⟩ (vain outcome product)

/-! ## All telegrams -/

theorem not_settles_of_device (identified : engine.registry.device?
    (withoutReadFlag telegram.source) = some device) : ¬ engine.Settles telegram product := by
  rintro ⟨waiting, _⟩
  rw [device?, waiting] at identified
  cases identified

theorem not_broadcasts_of_other (other : telegram.identification ≠ onlineMessage) :
    ¬ engine.Broadcasts telegram := fun broadcasts => other broadcasts.2.1

theorem not_settles_of_foreign (foreign : telegram.identification ≠ versionMessage) :
    ¬ engine.Settles telegram product := fun settles => foreign settles.2.own

theorem isFollowedBy_of_broadcasts (broadcasts : engine.Broadcasts telegram) :
    engine.IsFollowedBy telegram
      ((engine.arrivals telegram.window).map (·, versionMessage)) := by
  refine .arrivals _ broadcasts (engine.pairwise_arrivals _) fun address => ?_
  obtain ⟨told, online, layout, known, fits⟩ := broadcasts
  have known : engine.messages.get? telegram.identification = some layout := by rwa [online]
  have entered : (engine.dispatch telegram).2.registry =
      (engine.registry.applyOnlineUpdate telegram.window.bytes
        telegram.window.offset).registry := by
    rw [← registry_updatePresence fits, dispatch_of_broadcast told known online]
  rw [entered]
  exact mem_arrivals_iff

theorem exists_targets (engine : Engine) (telegram : Telegram) :
    ∃ targets, engine.IsFollowedBy telegram targets := by
  by_cases broadcasts : engine.Broadcasts telegram
  · exact ⟨_, isFollowedBy_of_broadcasts broadcasts⟩
  · by_cases settles : ∃ product, engine.Settles telegram product
    · obtain ⟨product, settles⟩ := settles
      exact ⟨_, .introduction product settles⟩
    · exact ⟨_, .nothing broadcasts fun product settled => settles ⟨product, settled⟩⟩

theorem exists_isFollowedBy_of_version (told : telegram.isReadRequest = false)
    (known : engine.messages.get? telegram.identification = some layout)
    (own : telegram.identification = versionMessage)
    (handled : engine.dispatch telegram = engine.identify (withoutReadFlag telegram.source)
      layout telegram.window.bytes telegram.window.offset)
    (takes : ∀ targets, engine.IsFollowedBy telegram targets →
      engine.transport.TakesAll (requestFrames engine.config.clientId targets)) :
    ∃ targets, engine.IsFollowedBy telegram targets ∧
      (engine.dispatch telegram).1 ≠ .error .waiting ∧
      engine.transport.Enqueues (engine.dispatch telegram).2.transport
        (requestFrames engine.config.clientId targets) := by
  have silent : ¬ engine.Broadcasts telegram := by
    apply not_broadcasts_of_other
    rw [own]
    decide
  rw [handled]
  by_cases named : ∃ outcome product, engine.Recognises layout telegram.window outcome product
  · obtain ⟨outcome, product, recognised⟩ := named
    have introduces := introduces_of_recognises told known own recognised
    rw [identify_of_recognises recognised]
    by_cases waiting : engine.registry.state (withoutReadFlag telegram.source) =
        .onlineUnidentified
    · have follows : engine.IsFollowedBy telegram _ := .introduction product ⟨waiting, introduces⟩
      have said := engine.enqueues_say outcome.notes
      have entered := enqueues_enter outcome.message outcome.changed (by exact waiting)
        (said.takesAll (takes _ follows))
      exact ⟨_, follows, entered.1, said.trans entered.2⟩
    · refine ⟨_, .nothing silent fun _ settles => waiting settles.1, ?_, ?_⟩
      · rw [(enter_of_not_waiting (by exact waiting)).1]
        simp
      · exact (engine.enqueues_say _).trans
          (enqueues_enter_of_not_waiting _ _ (by exact waiting))
  · have vain : ∀ outcome product, ¬ engine.Recognises layout telegram.window outcome product :=
      fun outcome product recognised => named ⟨outcome, product, recognised⟩
    refine ⟨_, .nothing silent fun product settles => ?_,
      enqueues_identify_of_not_recognises vain⟩
    obtain ⟨found, outcome, catalogued, recognised⟩ := settles.2.exists_recognises
    rw [known, Option.some.injEq] at catalogued
    subst catalogued
    exact vain outcome product recognised

/-- A telegram is followed by some requests, and they are all that is queued if they are taken. -/
theorem exists_isFollowedBy (engine : Engine) (telegram : Telegram)
    (takes : ∀ targets, engine.IsFollowedBy telegram targets →
      engine.transport.TakesAll (requestFrames engine.config.clientId targets)) :
    ∃ targets, engine.IsFollowedBy telegram targets ∧
      (engine.dispatch telegram).1 ≠ .error .waiting ∧
      engine.transport.Enqueues (engine.dispatch telegram).2.transport
        (requestFrames engine.config.clientId targets) := by
  -- Of the ways of a dispatch only two lead to requests: a broadcast and a version message.
  cases engine.handling telegram with
  | passed asked handled =>
    refine ⟨_, .nothing (fun broadcasts => ?_) (fun product settles => ?_), ?_, ?_⟩
    · rw [broadcasts.1] at asked
      cases asked
    · rw [settles.2.told] at asked
      cases asked
    · simp [handled]
    · rw [handled]
      exact .of_same rfl rfl
  | refused told unknown handled =>
    refine ⟨_, .nothing (fun broadcasts => ?_) (fun product settles => ?_), ?_, ?_⟩
    · obtain ⟨_, online, layout, known, _⟩ := broadcasts
      rw [online, known] at unknown
      cases unknown
    · obtain ⟨layout, outcome, known, _⟩ := settles.2.exists_recognises
      rw [known] at unknown
      cases unknown
    · simp [handled]
    · rw [handled]
      exact .of_same rfl rfl
  | presence layout told known online handled =>
    have handled : engine.dispatch telegram = _ := handled
    by_cases fits : telegram.window.FitsInto layout
    · have broadcasts : engine.Broadcasts telegram := by
        rw [online] at known
        exact ⟨told, online, layout, known, fits⟩
      have follows := isFollowedBy_of_broadcasts broadcasts
      obtain ⟨through, sent⟩ := enqueues_updatePresence fits (takes _ follows)
      have through : (engine.updatePresence layout telegram.payload telegram.offset.toNat).1 =
        .ok () := through
      rw [handled]
      exact ⟨_, follows, by simp [through, Except.map], sent⟩
    · have unfit : engine.updatePresence layout telegram.payload telegram.offset.toNat = _ :=
        updatePresence_of_not_fits fits
      rw [handled, unfit]
      refine ⟨_, .nothing (fun broadcasts => ?_) (fun product settles => ?_), by simp [Except.map],
        .of_same rfl rfl⟩
      · obtain ⟨_, _, found, catalogued, within⟩ := broadcasts
        rw [online, catalogued, Option.some.injEq] at known
        subst known
        exact fits within
      · refine not_settles_of_foreign ?_ settles
        rw [online]
        decide
  | kept layout device told known other identified handled =>
    rw [handled]
    exact ⟨_, .nothing (not_broadcasts_of_other other)
      (fun product => not_settles_of_device identified), enqueues_keep⟩
  | version layout told known own unidentified handled =>
    exact exists_isFollowedBy_of_version told known own handled takes
  | shown layout told known other foreign unidentified handled =>
    rw [handled]
    exact ⟨_, .nothing (not_broadcasts_of_other other)
      (fun product => not_settles_of_foreign foreign), enqueues_showUnidentified⟩

/-- The requests that follow a telegram are all that is queued if they are taken. -/
theorem IsFollowedBy.enqueues (follows : engine.IsFollowedBy telegram targets)
    (takes : engine.transport.TakesAll (requestFrames engine.config.clientId targets)) :
    (engine.dispatch telegram).1 ≠ .error .waiting ∧
      engine.transport.Enqueues (engine.dispatch telegram).2.transport
        (requestFrames engine.config.clientId targets) := by
  have takes : ∀ others, engine.IsFollowedBy telegram others →
      engine.transport.TakesAll (requestFrames engine.config.clientId others) := by
    intro others too
    rwa [too.eq follows]
  obtain ⟨others, too, served, enqueues⟩ := engine.exists_isFollowedBy telegram takes
  rw [too.eq follows] at enqueues
  exact ⟨served, enqueues⟩

end

end Engine

end HeatingBus
