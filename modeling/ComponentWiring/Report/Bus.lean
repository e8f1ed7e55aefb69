/-
ComponentWiring.Report.Bus — delivery of events to subscribers.

* `Bus` — the subscriptions, each with the events that wait for it.
* `Bus.emit`, `Bus.publish` — delivery to every subscription that is still held.
* `Bus.receive?`, `Bus.drain` — taking events off a subscription.

The main statement is `waiting_publish`: a held subscription gets every published event,
once and in order.
-/
import ComponentWiring.Report.Event

namespace ComponentWiring

/-- A subscription: the events that wait for it, and whether somebody still holds it. -/
structure Subscription where
  waiting : List Event := []
  isHeld : Bool := true
deriving Inhabited

/-- The subscription after an event was sent to it. -/
def Subscription.accept (e : Event) (s : Subscription) : Subscription :=
  if s.isHeld then { s with waiting := s.waiting ++ [e] } else s

/-- Subscriptions in the order in which they were made. A subscription is known by its
place, which it keeps when it is given up. -/
structure Bus where
  subscriptions : List Subscription := []
deriving Inhabited

namespace Bus

/-- The bus without subscriptions. -/
def empty : Bus := {}

/-- The number of subscriptions ever made. -/
def size (b : Bus) : Nat := b.subscriptions.length

/-- Adds a subscription. -/
def subscribe (b : Bus) : Bus := ⟨b.subscriptions ++ [({} : Subscription)]⟩

/-- Gives a subscription up. -/
def release (b : Bus) (i : Nat) : Bus :=
  ⟨b.subscriptions.modify i fun _ => ⟨[], false⟩⟩

/-- The subscription at a place, unless it was given up. -/
def held? (b : Bus) (i : Nat) : Option Subscription := b.subscriptions[i]?.filter (·.isHeld)

/-- The number of subscriptions that are held. -/
def audience (b : Bus) : Nat := b.subscriptions.countP (·.isHeld)

/-- Delivers an event. -/
def emit (b : Bus) (e : Event) : Bus := ⟨b.subscriptions.map (.accept e)⟩

/-- Delivers events one after the other. -/
def publish (b : Bus) (es : List Event) : Bus := es.foldl emit b

/-- The events that wait for a subscription. -/
def waiting (b : Bus) (i : Nat) : List Event := (b.held? i).elim [] (·.waiting)

/-- Takes the event that has waited longest. -/
def receive? (b : Bus) (i : Nat) : Option (Event × Bus) :=
  match b.waiting i with
  | [] => none
  | e :: es => some (e, ⟨b.subscriptions.modify i fun s => { s with waiting := es }⟩)

/-- Takes all events that wait. -/
def drain (b : Bus) (i : Nat) : List Event × Bus :=
  (b.waiting i, ⟨b.subscriptions.modify i fun s => { s with waiting := [] }⟩)

theorem accept_isHeld (e : Event) (s : Subscription) : (s.accept e).isHeld = s.isHeld := by
  by_cases h : s.isHeld <;> simp [Subscription.accept, h]

theorem held?_emit (b : Bus) (e : Event) (i : Nat) :
    (b.emit e).held? i = (b.held? i).map (.accept e) := by
  simp only [held?, emit, List.getElem?_map]
  cases h : b.subscriptions[i]? with
  | none => rfl
  | some s => by_cases hs : s.isHeld <;> simp [Option.filter, accept_isHeld, hs]

/-- A held subscription gets every published event, once and in order. -/
theorem waiting_publish (b : Bus) (es : List Event) (i : Nat) (h : (b.held? i).isSome) :
    (b.publish es).waiting i = b.waiting i ++ es := by
  induction es generalizing b with
  | nil => simp [publish]
  | cons e es ih =>
    obtain ⟨s, hs⟩ := Option.isSome_iff_exists.mp h
    have held : s.isHeld = true := by
      simp only [held?, Option.filter_eq_some_iff] at hs
      exact hs.2
    have step : (b.emit e).held? i = some (s.accept e) := by rw [held?_emit, hs]; rfl
    have next := ih (b.emit e) (by rw [step]; rfl)
    simp only [publish, List.foldl_cons] at next ⊢
    rw [next]
    simp [waiting, step, hs, Subscription.accept, held]

end Bus

end ComponentWiring
