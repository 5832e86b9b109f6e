import HeatingBus.Proofs.Engine.Knowledge

/-!
# Replay

What is kept of a message is what its telegrams have told, and nothing else: replaying, from the
empty message on, the updates that have come in since the device was last identified gives the
message that the engine keeps. What came in before that, what came from other addresses or for other
messages, what did not fit, and all writes leave no trace in it.
-/

namespace HeatingBus

open Registry

namespace Engine

def updatesOf (address : UInt8) (layout : MessageLayout) (calls : List Call) : List Window :=
  calls.flatMap (Call.windows address layout)

/-- The tenure of the device that an address has after a run: the run is split at the telegram that
identified the device, and the address was identified ever since. -/
structure IsTenure (start : Engine) (calls : List Call) (address : UInt8) (earlier : List Call)
    (version : Telegram) (later : List Call) : Prop where
  split : calls = earlier ++ .dispatch version :: later
  unidentified : (start.run earlier).registry.isIdentified address = false
  identified : ∀ part, part <+: later →
    (start.run (earlier ++ .dispatch version :: part)).registry.isIdentified address = true

section
variable {start : Engine} {calls earlier later : List Call} {address : UInt8} {version : Telegram}
  {layout : MessageLayout}

theorem IsTenure.concat (tenure : IsTenure start calls address earlier version later) {call : Call}
    (identified : (start.run (calls ++ [call])).registry.isIdentified address = true) :
    IsTenure start (calls ++ [call]) address earlier version (later ++ [call]) := by
  have split : calls ++ [call] = earlier ++ .dispatch version :: (later ++ [call]) := by
    rw [tenure.split, List.append_assoc, List.cons_append]
  refine ⟨split, tenure.unidentified, fun part cut => ?_⟩
  rcases List.prefix_concat_iff.mp cut with rfl | cut
  · rwa [← split]
  · exact tenure.identified part cut

/-- The device of an address has a tenure. -/
theorem exists_isTenure (new : start.registry = .empty)
    (identified : (start.run calls).registry.isIdentified address = true) :
    ∃ earlier version later, IsTenure start calls address earlier version later := by
  induction calls using List.reverseRecOn with
  | nil =>
    rw [run_nil, isIdentified, device?_of_new new] at identified
    cases identified
  | append_singleton calls call inductionHypothesis =>
    cases before : (start.run calls).registry.isIdentified address with
    | true =>
      obtain ⟨earlier, version, later, tenure⟩ := inductionHypothesis before
      exact ⟨earlier, version, later ++ [call], tenure.concat identified⟩
    | false =>
      -- Only the dispatch of a version message makes a device known, and the tenure begins there.
      obtain ⟨info, known⟩ := isIdentified_iff_exists_deviceInfo?.mp identified
      rw [run_concat] at known
      rcases deviceInfo?_perform known with earlier | ⟨_, version, rfl, _⟩
      · rw [isIdentified_iff_exists_deviceInfo?.mpr ⟨info, earlier⟩] at before
        cases before
      · refine ⟨calls, version, [], rfl, before, fun part cut => ?_⟩
        rwa [List.prefix_nil.mp cut]

/-- The telegram that a tenure begins with has introduced the device. -/
theorem IsTenure.introduces (tenure : IsTenure start calls address earlier version later) :
    withoutReadFlag version.source = withoutReadFlag address ∧
      ∃ product, (start.run earlier).Introduces version product := by
  have identified := tenure.identified [] List.nil_prefix
  obtain ⟨info, known⟩ := isIdentified_iff_exists_deviceInfo?.mp identified
  rw [run_concat] at known
  rcases deviceInfo?_perform known with before | ⟨_, found, same, source, product, introduces, _⟩
  · have unidentified := tenure.unidentified
    rw [isIdentified_iff_exists_deviceInfo?.mpr ⟨info, before⟩] at unidentified
    cases unidentified
  · cases same
    exact ⟨source, product, introduces⟩

theorem updatesOf_concat {call : Call} :
    updatesOf address layout (calls ++ [call]) =
      updatesOf address layout calls ++ call.windows address layout := by
  simp [updatesOf]

/-- What a call brings to a message once the device is known is added to what was known before. -/
theorem recollect_concat (new : start.registry = .empty)
    (known : start.messages.get? layout.identification = some layout)
    (other : layout.identification ≠ onlineMessage) {call : Call}
    (identified : (start.run (calls ++ [call])).registry.isIdentified address = true) :
    (start.run (calls ++ [call])).registry.recollect address layout =
      (call.windows address layout).foldl Message.absorb
        ((start.run calls).registry.recollect address layout) := by
  rw [run_concat] at identified ⊢
  rw [← messages_run calls] at known
  exact recollect_perform (isFiled_run calls (isFiled_of_new new _)) known other
    (isIdentified_iff_device?_ne_none.mp identified)

/-- A message is what the updates of its tenure have made of the empty one. -/
theorem IsTenure.recollect_eq (tenure : IsTenure start calls address earlier version later)
    (new : start.registry = .empty)
    (known : start.messages.get? layout.identification = some layout)
    (other : layout.identification ≠ onlineMessage) :
    (start.run calls).registry.recollect address layout =
      .after layout (updatesOf address layout (.dispatch version :: later)) := by
  obtain ⟨rfl, unidentified, identified⟩ := tenure
  induction later using List.reverseRecOn with
  | nil =>
    rw [recollect_concat new known other (identified [] List.nil_prefix),
      recollect_of_unidentified (isIdentified_eq_false_iff.mp unidentified)]
    simp [updatesOf, Message.after]
  | append_singleton later call inductionHypothesis =>
    have last := identified (later ++ [call]) (List.prefix_refl _)
    rw [← List.cons_append, ← List.append_assoc] at last ⊢
    rw [recollect_concat new known other last, updatesOf_concat, Message.after, List.foldl_append,
      ← Message.after, inductionHypothesis fun part cut => identified part (cut.trans ?_)]
    exact List.prefix_append later [call]

/-- A message that some telegram of a tenure has brought an update to is kept. -/
theorem IsTenure.isSome_message? (tenure : IsTenure start calls address earlier version later)
    (known : start.messages.get? layout.identification = some layout)
    (other : layout.identification ≠ onlineMessage)
    (updated : updatesOf address layout (.dispatch version :: later) ≠ []) :
    ((start.run calls).registry.message? address layout.identification).isSome = true := by
  have step : ∀ {part call},
      (start.run (part ++ [call])).registry.isIdentified address = true →
      call.windows address layout ≠ [] ∨
        ((start.run part).registry.message? address layout.identification).isSome = true →
      ((start.run (part ++ [call])).registry.message? address
        layout.identification).isSome = true := by
    intro part call identified kept
    rw [run_concat] at identified ⊢
    rw [← messages_run part] at known
    exact isSome_message?_perform known other (isIdentified_iff_device?_ne_none.mp identified) kept
  obtain ⟨rfl, _, identified⟩ := tenure
  induction later using List.reverseRecOn with
  | nil =>
    refine step (identified [] List.nil_prefix) (.inl ?_)
    simpa [updatesOf] using updated
  | append_singleton later call inductionHypothesis =>
    have last := identified (later ++ [call]) (List.prefix_refl _)
    rw [← List.cons_append, ← List.append_assoc] at last ⊢
    rw [← List.cons_append, updatesOf_concat] at updated
    refine step last ?_
    by_cases idle : call.windows address layout = []
    · rw [idle, List.append_nil] at updated
      exact .inr (inductionHypothesis updated fun part cut =>
        identified part (cut.trans (List.prefix_append later [call])))
    · exact .inl idle

/-- After any calls of a new engine, a message that is kept of an address is the one of the
catalogue, and it is what has come of the empty message under the updates of the tenure, the
telegram that identified the device among them. Every message that the tenure has updates of is
kept. -/
theorem message?_run (new : start.registry = .empty) {identification : UInt8}
    (other : identification ≠ onlineMessage) :
    (∀ message, (start.run calls).registry.message? address identification = some message →
      ∃ layout, start.messages.get? identification = some layout ∧
        (∃ earlier version later, IsTenure start calls address earlier version later) ∧
        ∀ earlier version later, IsTenure start calls address earlier version later →
          version.Tells address versionMessage ∧
          message = .after layout (updatesOf address layout (.dispatch version :: later))) ∧
    ∀ layout earlier version later, start.messages.get? identification = some layout →
      IsTenure start calls address earlier version later →
      updatesOf address layout (.dispatch version :: later) ≠ [] →
      ((start.run calls).registry.message? address identification).isSome = true := by
  constructor
  · intro message kept
    have filed := isFiled_run calls (isFiled_of_new new start.messages) address identification
      message kept
    rw [messages_run] at filed
    have code := MessageCatalog.identification_of_get? filed
    have identified : (start.run calls).registry.isIdentified address = true := by
      by_contra unidentified
      rw [Bool.not_eq_true, isIdentified_eq_false_iff] at unidentified
      rw [message?_of_unidentified unidentified] at kept
      cases kept
    refine ⟨message.layout, filed, exists_isTenure new identified, ?_⟩
    intro earlier version later tenure
    obtain ⟨source, product, introduces⟩ := tenure.introduces
    refine ⟨⟨introduces.told, source, introduces.own⟩, ?_⟩
    rw [← code] at kept filed other
    rw [← tenure.recollect_eq new filed other, recollect_of_message? kept]
  · intro layout earlier version later known tenure updated
    obtain rfl : layout.identification = identification :=
      MessageCatalog.identification_of_get? known
    exact tenure.isSome_message? known other updated

end

def boilerAbsence : List Call :=
  boilerDiscovery ++
    [.dispatch (.sealed 8 0 0x1A 0 [60, 100, 0, 1]),
      .dispatch (.sealed 8 0 onlineMessage 0 [0]),
      .dispatch (.sealed 8 0 0x1A 0 [61]),
      .dispatch (.sealed 8 0 onlineMessage 0 [1])]

def boilerVersion : Telegram := .sealed 8 0 versionMessage 0 [123, 1, 3]

/-- What happens after that: a telegram of the boiler with its power, one of somebody else, one that
does not fit, and a write. -/
def boilerNews : List Call :=
  [.dispatch (.sealed 8 0 0x1A 1 [50]), .dispatch (.sealed 9 0 0x1A 0 [62]),
    .dispatch (.sealed 8 0 0x1A 2 [0, 0, 0]), .setValue 8 0x1A "heat_power" (.integer 70)]

/-- All that is kept of the boiler that has come back is its power. -/
theorem message?_run_of_boiler :
    let calls := boilerAbsence ++ .dispatch boilerVersion :: boilerNews
    (0x1A ≠ onlineMessage) ∧
      ∃ message, (boilerEngine.run calls).registry.message? 8 0x1A = some message ∧
        message = .after setValuesLayout [⟨[50], 1⟩] ∧ message.buffer = [0, 50, 0, 0] := by
  intro calls
  have new : boilerEngine.registry = .empty := rfl
  have other : (0x1A : UInt8) ≠ onlineMessage := by decide
  have tenure : IsTenure boilerEngine calls 8 boilerAbsence boilerVersion boilerNews :=
    ⟨rfl, by decide +kernel, by decide +kernel⟩
  have told : updatesOf 8 setValuesLayout (.dispatch boilerVersion :: boilerNews) =
      [⟨[50], 1⟩] := by decide
  have updated : updatesOf 8 setValuesLayout (.dispatch boilerVersion :: boilerNews) ≠ [] := by
    decide
  obtain ⟨replays, keeps⟩ := message?_run new other
  obtain ⟨message, kept⟩ := Option.isSome_iff_exists.mp (keeps _ _ _ _ rfl tenure updated)
  obtain ⟨layout, known, _, replayed⟩ := replays message kept
  obtain rfl : setValuesLayout = layout := Option.some.inj known
  have replay := (replayed _ _ _ tenure).2
  rw [told] at replay
  refine ⟨other, message, kept, replay, ?_⟩
  rw [replay]
  decide

end Engine

end HeatingBus
