import HeatingBus.Proofs.Registry.Slots
import Mathlib.Data.List.Induction

/-!
# Tickets

The tickets of one message under any history of draws and drops. A ticket that is drawn stays live
until it is dropped, and tickets may be dropped before it is their turn. The order of events keeps a
single number of all this, one more than the greatest place that was dropped; so it is the turn of a
live ticket exactly if the ticket is the first, or the one right before it or any later one was
dropped. While every ticket waits for its turn before it is dropped, this is the case exactly if all
earlier tickets were dropped. A ticket that is dropped out of turn lets those behind it overtake the
live ones before it.
-/

namespace HeatingBus

inductive TicketAction where
  | draw
  | drop (place : Nat)
  deriving Repr, DecidableEq

structure TicketBook where
  order : EventOrder
  live : List Nat
  deriving Repr, DecidableEq

namespace TicketBook

def fresh : TicketBook := ⟨.fresh, []⟩

/-- The book after one more action. A ticket can be dropped only while it is live. -/
def act (book : TicketBook) : TicketAction → TicketBook
  | .draw => ⟨book.order.draw, book.live ++ [book.order.next]⟩
  | .drop place =>
    if place ∈ book.live then ⟨book.order.drop place, book.live.filter (· ≠ place)⟩ else book

def after (history : List TicketAction) : TicketBook :=
  history.foldl act fresh

def IsDropped (book : TicketBook) (place : Nat) : Prop :=
  place < book.order.issued ∧ place ∉ book.live

instance (book : TicketBook) (place : Nat) : Decidable (book.IsDropped place) :=
  inferInstanceAs (Decidable (_ ∧ _))

theorem after_concat (history : List TicketAction) (action : TicketAction) :
    after (history ++ [action]) = (after history).act action := by
  simp [after]

/-! ## One action -/

section
variable {book : TicketBook} {place other : Nat}

theorem mem_live_draw :
    other ∈ (book.act .draw).live ↔ other ∈ book.live ∨ other = book.order.issued := by
  simp [act, EventOrder.next]

theorem isDropped_draw : (book.act .draw).IsDropped other ↔ book.IsDropped other := by
  have later : other < book.order.issued + 1 ∧ ¬ (other ∈ book.live ∨ other = book.order.issued) ↔
      other < book.order.issued ∧ other ∉ book.live := by
    constructor
    · rintro ⟨bound, new⟩
      exact ⟨by omega, fun live => new (.inl live)⟩
    · rintro ⟨bound, dropped⟩
      exact ⟨by omega, fun live => live.elim dropped (by omega)⟩
  rw [IsDropped, mem_live_draw]
  exact later

theorem act_drop (live : place ∈ book.live) :
    book.act (.drop place) = ⟨book.order.drop place, book.live.filter (· ≠ place)⟩ :=
  if_pos live

theorem act_drop_of_not_live (gone : place ∉ book.live) : book.act (.drop place) = book :=
  if_neg gone

theorem delivered_drop (live : place ∈ book.live) :
    (book.act (.drop place)).order.delivered = max book.order.delivered (place + 1) := by
  rw [act_drop live]
  rfl

theorem isDropped_drop (live : place ∈ book.live) (bound : place < book.order.issued) :
    (book.act (.drop place)).IsDropped other ↔ book.IsDropped other ∨ other = place := by
  rw [act_drop live]
  by_cases same : other = place
  · simp [IsDropped, EventOrder.drop, same, bound]
  · simp [IsDropped, EventOrder.drop, same]

end

/-! ## Invariants -/

/-- What a book says of its tickets: the live ones were drawn, and the order of events keeps the
greatest place that was dropped. -/
structure Balanced (book : TicketBook) : Prop where
  live_lt : ∀ ticket ∈ book.live, ticket < book.order.issued
  lt_delivered : ∀ ticket, book.IsDropped ticket → ticket < book.order.delivered
  last_dropped : book.order.delivered ≠ 0 → book.IsDropped (book.order.delivered - 1)

theorem balanced_act {book : TicketBook} (balanced : book.Balanced) (action : TicketAction) :
    (book.act action).Balanced := by
  cases action with
  | draw =>
    refine ⟨?_, ?_, ?_⟩
    · intro ticket live
      have bound : ticket < book.order.issued + 1 := by
        rcases mem_live_draw.mp live with earlier | rfl
        · have := balanced.live_lt ticket earlier
          omega
        · omega
      exact bound
    · intro ticket dropped
      exact balanced.lt_delivered ticket (isDropped_draw.mp dropped)
    · intro positive
      exact isDropped_draw.mpr (balanced.last_dropped positive)
  | drop place =>
    by_cases live : place ∈ book.live
    · have bound := balanced.live_lt place live
      refine ⟨?_, ?_, ?_⟩
      · rw [act_drop live]
        intro ticket kept
        exact balanced.live_lt ticket (List.mem_filter.mp kept).1
      · intro ticket dropped
        rw [delivered_drop live]
        rcases (isDropped_drop live bound).mp dropped with earlier | rfl
        · have := balanced.lt_delivered ticket earlier
          omega
        · omega
      · -- Either this place is the greatest one so far, or the greatest one stays what it was.
        intro _
        rw [delivered_drop live, isDropped_drop live bound]
        by_cases greatest : book.order.delivered ≤ place + 1
        · right
          omega
        · left
          have same : max book.order.delivered (place + 1) = book.order.delivered := by omega
          rw [same]
          exact balanced.last_dropped (by omega)
    · rw [act_drop_of_not_live live]
      exact balanced

theorem balanced_after (history : List TicketAction) : (after history).Balanced := by
  induction history using List.reverseRecOn with
  | nil => exact ⟨by simp [after, fresh], by simp [after, fresh, IsDropped, EventOrder.fresh],
      by simp [after, fresh, EventOrder.fresh]⟩
  | append_singleton history action inductionHypothesis =>
    rw [after_concat]
    exact balanced_act inductionHypothesis action

/-- The histories in which every ticket that is dropped had its turn. -/
inductive IsOrderly : List TicketAction → Prop where
  | nil : IsOrderly []
  | draw {history : List TicketAction} : IsOrderly history → IsOrderly (history ++ [.draw])
  | drop {history : List TicketAction} {place : Nat} : IsOrderly history →
      (place ∈ (after history).live → (after history).order.isTurn place = true) →
      IsOrderly (history ++ [.drop place])

theorem Balanced.delivered_le_issued {book : TicketBook} (balanced : book.Balanced) :
    book.order.delivered ≤ book.order.issued := by
  by_cases none : book.order.delivered = 0
  · omega
  · have := (balanced.last_dropped none).1
    omega

/-- In an orderly history no ticket that was dropped comes after a live one. -/
theorem IsOrderly.delivered_le {history : List TicketAction} (orderly : IsOrderly history) :
    ∀ ticket ∈ (after history).live, (after history).order.delivered ≤ ticket := by
  induction orderly with
  | nil => simp [after, fresh]
  | @draw history _ inductionHypothesis =>
    rw [after_concat]
    intro ticket live
    have bound := (balanced_after history).delivered_le_issued
    rcases mem_live_draw.mp live with earlier | rfl
    · exact inductionHypothesis ticket earlier
    · exact bound
  | @drop history place _ turn inductionHypothesis =>
    rw [after_concat]
    by_cases live : place ∈ (after history).live
    · -- It was the turn of the dropped ticket, so it is the least of the live ones.
      have least := inductionHypothesis place live
      have due : place ≤ (after history).order.delivered := by
        simpa [EventOrder.isTurn] using turn live
      rw [delivered_drop live, act_drop live]
      intro ticket kept
      obtain ⟨stillLive, other⟩ := List.mem_filter.mp kept
      have bound := inductionHypothesis ticket stillLive
      have different : ticket ≠ place := by simpa using other
      omega
    · rw [act_drop_of_not_live live]
      exact inductionHypothesis

/-! ## Whose turn it is -/

section
variable {book : TicketBook} {place : Nat}

/-- It is the turn of the first ticket, and of any up to the one right after a dropped one. -/
theorem Balanced.isTurn_iff (balanced : book.Balanced) :
    book.order.isTurn place = true ↔
      place = 0 ∨ ∃ dropped, book.IsDropped dropped ∧ place ≤ dropped + 1 := by
  rw [EventOrder.isTurn, decide_eq_true_iff]
  constructor
  · intro due
    by_cases first : place = 0
    · exact .inl first
    · exact .inr ⟨_, balanced.last_dropped (by omega), by omega⟩
  · rintro (rfl | ⟨dropped, gone, bound⟩)
    · exact Nat.zero_le _
    · have := balanced.lt_delivered dropped gone
      omega

/-- It is the turn of a ticket once all earlier ones were dropped. -/
theorem Balanced.isTurn_of_dropped (balanced : book.Balanced)
    (dropped : ∀ earlier < place, book.IsDropped earlier) : book.order.isTurn place = true := by
  rw [balanced.isTurn_iff]
  by_cases first : place = 0
  · exact .inl first
  · exact .inr ⟨place - 1, dropped _ (by omega), by omega⟩

theorem Balanced.isDropped_iff (balanced : book.Balanced) (live : place ∈ book.live)
    {earlier : Nat} (before : earlier < place) : book.IsDropped earlier ↔ earlier ∉ book.live := by
  have := balanced.live_lt place live
  exact and_iff_right (by omega)

end

/-- After any history, it is the turn of a live ticket exactly if it is the first one or some ticket
was dropped that comes right before it or later. This differs from all earlier tickets having been
dropped exactly if some earlier ticket is live all the same; it never does while every ticket waits
for its turn before it is dropped. -/
theorem isTurn_after_iff {history : List TicketAction} {place : Nat}
    (live : place ∈ (after history).live) :
    ((after history).order.isTurn place = true ↔
      place = 0 ∨ ∃ dropped, (after history).IsDropped dropped ∧ place ≤ dropped + 1) ∧
    (((after history).order.isTurn place = true ↔
        ∀ earlier < place, (after history).IsDropped earlier) ↔
      ¬ ((∃ earlier < place, earlier ∈ (after history).live) ∧
        ∃ dropped, (after history).IsDropped dropped ∧ place ≤ dropped + 1)) ∧
    (IsOrderly history →
      ((after history).order.isTurn place = true ↔
        ∀ earlier < place, (after history).IsDropped earlier)) := by
  have balanced := balanced_after history
  refine ⟨balanced.isTurn_iff, ?_, ?_⟩
  · constructor
    · rintro agree ⟨⟨earlier, before, waiting⟩, overtaken⟩
      have turn := balanced.isTurn_iff.mpr (.inr overtaken)
      exact (agree.mp turn earlier before).2 waiting
    · -- An earlier ticket that is live shows that this one was overtaken.
      intro undisturbed
      refine ⟨fun turn earlier before => ?_, balanced.isTurn_of_dropped⟩
      rw [balanced.isDropped_iff live before]
      intro waiting
      rcases balanced.isTurn_iff.mp turn with rfl | overtaken
      · exact absurd before (Nat.not_lt_zero _)
      · exact undisturbed ⟨⟨earlier, before, waiting⟩, overtaken⟩
  · intro orderly
    refine ⟨fun turn earlier before => ?_, balanced.isTurn_of_dropped⟩
    rw [balanced.isDropped_iff live before]
    intro waiting
    have bound := orderly.delivered_le earlier waiting
    rw [EventOrder.isTurn, decide_eq_true_iff] at turn
    omega

/-- Three tickets are drawn and the first one is dropped at its turn: it is the turn of the second
one, but not of the third one. -/
theorem isTurn_after_drop_of_first :
    IsOrderly [.draw, .draw, .draw, .drop 0] ∧
      (1 ∈ (after [.draw, .draw, .draw, .drop 0]).live ∧
        (after [.draw, .draw, .draw, .drop 0]).order.isTurn 1 = true) ∧
      2 ∈ (after [.draw, .draw, .draw, .drop 0]).live ∧
        ¬ (after [.draw, .draw, .draw, .drop 0]).order.isTurn 2 = true := by
  have drawn : IsOrderly [.draw, .draw, .draw] := .draw (.draw (.draw .nil))
  have orderly : IsOrderly [.draw, .draw, .draw, .drop 0] := drawn.drop (by decide)
  have second : 1 ∈ (after [.draw, .draw, .draw, .drop 0]).live := by decide
  have third : 2 ∈ (after [.draw, .draw, .draw, .drop 0]).live := by decide
  refine ⟨orderly, ⟨second, ((isTurn_after_iff second).2.2 orderly).mpr (by decide)⟩, third,
    fun turn => ?_⟩
  exact absurd (((isTurn_after_iff third).2.2 orderly).mp turn) (by decide)

/-- The second of three tickets is dropped while the first one is live: it is the turn of the third
one at once. -/
theorem not_isTurn_after_iff :
    ¬ ∀ (history : List TicketAction) (place : Nat), place ∈ (after history).live →
        ((after history).order.isTurn place = true ↔
          ∀ earlier < place, (after history).IsDropped earlier) := by
  intro always
  have agree := always [.draw, .draw, .draw, .drop 1] 2 (by decide)
  exact absurd (agree.mp (by decide)) (by decide)

end TicketBook

/-! ## Tickets of a registry -/

namespace Registry

/-- Whether a registry keeps a message of a device with the order of a book. -/
structure Keeps (registry : Registry) (tenure : MessageTenure) (book : TicketBook) : Prop where
  own_address : withoutReadFlag tenure.address = tenure.address
  current : (registry.slot tenure.address).tenure = tenure.tenure
  kept : ∃ device cached, registry.device? tenure.address = some device ∧
    device.cached? tenure.identification = some cached ∧ cached.order = book.order

section
variable {registry : Registry} {tenure : MessageTenure} {book : TicketBook}

theorem Keeps.order?_eq (keeps : registry.Keeps tenure book) :
    registry.order? tenure = some book.order := by
  obtain ⟨device, cached, identified, kept, same⟩ := keeps.kept
  simp [order?, isIdentified, identified, kept, same, keeps.current]

/-- The registry and the book agree on whose turn it is. -/
theorem Keeps.isTurn_eq (keeps : registry.Keeps tenure book) (place : Nat) :
    registry.isTurn ⟨tenure, place⟩ = book.order.isTurn place := by
  simp only [isTurn, keeps.order?_eq]

theorem Keeps.store {device : Device} {cached : CachedMessage} {next : TicketBook}
    (keeps : registry.Keeps tenure book) (same : cached.order = next.order) :
    (registry.store tenure.address device tenure.identification cached).Keeps tenure next := by
  refine ⟨keeps.own_address, ?_, _, cached, device?_eq_some_iff.mpr state_store_self,
    Device.cached?_store_self, same⟩
  rw [Registry.store, slot_setState_self]
  exact keeps.current

/-- A ticket of the registry is the next one of the book. -/
theorem Keeps.drawTicket? (keeps : registry.Keeps tenure book) :
    ∃ after, registry.drawTicket? tenure.address tenure.identification =
        some (⟨tenure, book.order.next⟩, after) ∧
      after.Keeps tenure (book.act .draw) := by
  obtain ⟨device, cached, identified, kept, same⟩ := keeps.kept
  have drawn : cached.order.draw = (book.act .draw).order := by
    rw [same]
    rfl
  have stored : (registry.store tenure.address device tenure.identification
      { cached with order := cached.order.draw }).Keeps tenure (book.act .draw) :=
    keeps.store drawn
  refine ⟨_, ?_, stored⟩
  simp [Registry.drawTicket?, identified, kept, same, keeps.own_address, keeps.current]

/-- A live ticket that is dropped is struck from the book. -/
theorem Keeps.dropTicket (keeps : registry.Keeps tenure book) {place : Nat}
    (live : place ∈ book.live) :
    (registry.dropTicket ⟨tenure, place⟩).Keeps tenure (book.act (.drop place)) := by
  obtain ⟨device, cached, identified, kept, same⟩ := keeps.kept
  simp only [Registry.dropTicket, identified, keeps.current, if_true, kept]
  apply keeps.store
  rw [same, TicketBook.act_drop live]

end

def ticketAct (registry : Registry) (tenure : MessageTenure) (book : TicketBook) :
    TicketAction → Registry
  | .draw =>
    match registry.drawTicket? tenure.address tenure.identification with
    | some (_, after) => after
    | none => registry
  | .drop place => if place ∈ book.live then registry.dropTicket ⟨tenure, place⟩ else registry

def ticketsAfter (registry : Registry) (tenure : MessageTenure) (book : TicketBook) :
    List TicketAction → Registry
  | [] => registry
  | action :: rest =>
    (registry.ticketAct tenure book action).ticketsAfter tenure (book.act action) rest

theorem Keeps.ticketAct {registry : Registry} {tenure : MessageTenure} {book : TicketBook}
    (keeps : registry.Keeps tenure book) (action : TicketAction) :
    (registry.ticketAct tenure book action).Keeps tenure (book.act action) := by
  cases action with
  | draw =>
    obtain ⟨after, drawn, next⟩ := keeps.drawTicket?
    simp only [Registry.ticketAct, drawn]
    exact next
  | drop place =>
    rw [Registry.ticketAct]
    by_cases live : place ∈ book.live
    · rw [if_pos live]
      exact keeps.dropTicket live
    · rw [if_neg live, TicketBook.act_drop_of_not_live live]
      exact keeps

theorem Keeps.ticketsAfter {registry : Registry} {tenure : MessageTenure} {book : TicketBook}
    (keeps : registry.Keeps tenure book) (history : List TicketAction) :
    (registry.ticketsAfter tenure book history).Keeps tenure
      (history.foldl TicketBook.act book) := by
  induction history generalizing registry book with
  | nil => exact keeps
  | cons action rest inductionHypothesis => exact inductionHypothesis (keeps.ticketAct action)

/-- Whose turn it is in a registry is what the book of its history says. -/
theorem isTurn_ticketsAfter {registry : Registry} {tenure : MessageTenure}
    (keeps : registry.Keeps tenure .fresh) (history : List TicketAction) (place : Nat) :
    (registry.ticketsAfter tenure .fresh history).isTurn ⟨tenure, place⟩ =
      (TicketBook.after history).order.isTurn place :=
  (keeps.ticketsAfter history).isTurn_eq place

end Registry

end HeatingBus
