/-
# ComposeSite.Proofs.Forward.Relay -- connections that are passed on do not cross

What one event does to a relay is said once (`Relay.step_passages`): it adds a connection,
happens to one connection, or touches none.  From it follows what a run does to each
connection that is there (`run_passage`), where each connection comes from
(`exists_accept`), and that leaving out what happens to one of them changes no other
(`run_filter`).  A relay that has come to its end accepts nothing more, whatever comes
(`run_hasReturned`).

Together with what holds of one connection this is what the users of a relay rely on
(`Relay.KeepsApart`), and every relay keeps it (`connections_kept_apart`), the forwards to
services and the socket that stands for a daemon's alike.  An answer that a far end gives only
once it has seen the end of the request comes back whole, whatever else has happened before
(`Relay.KeepsApart.answered`).
-/
import ComposeSite.Forward.Run
import ComposeSite.Proofs.Forward.Passage

set_option autoImplicit false

namespace ComposeSite.Forward

/-- What happens to one connection. -/
def eventsOf (connection : Nat) : List RelayEvent → List PassageEvent
  | [] => []
  | .on k e :: events =>
      if k = connection then e :: eventsOf connection events else eventsOf connection events
  | _ :: events => eventsOf connection events

/-- Whether an event happens to a connection. -/
def RelayEvent.isOn (connection : Nat) : RelayEvent → Bool
  | .on k _ => k = connection
  | _ => false

namespace Relay

variable {δ : Type} {r q : Relay δ}

theorem run_cons (r : Relay δ) (e : RelayEvent) (events : List RelayEvent) :
    r.run (e :: events) = (r.step e).run events := rfl

theorem run_append (r : Relay δ) (first second : List RelayEvent) :
    r.run (first ++ second) = (r.run first).run second := List.foldl_append ..

/-! ## One event -/

theorem shut_listeners (r : Relay δ) (i j : Nat) : (r.shut i).listeners[j]? =
    (r.listeners[j]?).map fun l => if i = j then { l with isOpen := false } else l := by
  rw [shut, List.getElem?_modify]
  rfl

/-- An event adds a connection to an open listener's destination, or happens to one connection,
or has nothing to do with connections. -/
theorem step_passages (r : Relay δ) (e : RelayEvent) :
    (∃ (i : Nat) (l : Listener δ), e = .accept i ∧ r.listeners[i]? = some l ∧ l.isOpen = true ∧
      (r.step e).passages = r.passages ++ [{ listener := i, destination := l.destination }]) ∨
    (∃ k happening, e = .on k happening ∧
      (r.step e).passages = r.passages.modify k (·.step happening)) ∨
    (∀ k, e.isOn k = false) ∧ (r.step e).passages = r.passages := by
  cases e with
  | accept i =>
      cases found : r.listeners[i]? with
      | none => exact .inr (.inr ⟨fun _ => rfl, by simp [step, accept, found]⟩)
      | some l =>
          cases isOpen : l.isOpen with
          | false => exact .inr (.inr ⟨fun _ => rfl, by simp [step, accept, found, isOpen]⟩)
          | true => exact .inl ⟨i, l, rfl, found, isOpen, by simp [step, accept, found, isOpen]⟩
  | acceptFailed i => exact .inr (.inr ⟨fun _ => rfl, rfl⟩)
  | signal => exact .inr (.inr ⟨fun _ => rfl, rfl⟩)
  | leave i =>
      refine .inr (.inr ⟨fun _ => rfl, ?_⟩)
      rw [step]
      split <;> rfl
  | on k happening => exact .inr (.inl ⟨k, happening, rfl, rfl⟩)

theorem step_listeners (r : Relay δ) (e : RelayEvent) :
    (r.step e).listeners.map (·.destination) = r.listeners.map (·.destination) := by
  have shut (i : Nat) : (r.shut i).listeners.map (·.destination) =
      r.listeners.map (·.destination) := by
    refine List.ext_getElem? fun j => ?_
    rw [List.getElem?_map, List.getElem?_map, shut_listeners, Option.map_map]
    refine congrFun (congrArg Option.map (funext fun l => ?_)) _
    by_cases same : i = j <;> simp [same]
  cases e with
  | accept i =>
      simp only [step, accept]
      split
      · split <;> rfl
      · rfl
  | acceptFailed i => exact shut i
  | signal => rfl
  | leave i =>
      rw [step]
      split
      · exact shut i
      · rfl
  | on k happening => rfl

/-- A connection goes on by what happens to it. -/
theorem step_passage (r : Relay δ) (e : RelayEvent) {k : Nat} (known : k < r.passages.length) :
    (r.step e).passages[k]? = (r.passages[k]?).map (·.run (eventsOf k [e])) ∧
      k < (r.step e).passages.length := by
  rcases r.step_passages e with ⟨i, l, rfl, -, -, added⟩ | ⟨j, happening, rfl, changed⟩ |
    ⟨elsewhere, same⟩
  · rw [added]
    refine ⟨?_, by simp; omega⟩
    rw [List.getElem?_append_left known]
    simp [eventsOf, Passage.run]
  · rw [changed]
    refine ⟨?_, by simpa using known⟩
    rw [List.getElem?_modify]
    cases r.passages[k]? with
    | none => rfl
    | some p => by_cases here : j = k <;> simp [eventsOf, here, Passage.run]
  · rw [same]
    refine ⟨?_, known⟩
    have quiet : eventsOf k [e] = [] := by
      cases e with
      | on j happening => simpa [RelayEvent.isOn, eventsOf] using elsewhere k
      | _ => rfl
    simp [quiet, Passage.run]

/-! ## A whole run -/

theorem eventsOf_cons (k : Nat) (e : RelayEvent) (events : List RelayEvent) :
    eventsOf k (e :: events) = eventsOf k [e] ++ eventsOf k events := by
  cases e with
  | on j happening =>
      simp only [eventsOf]
      split <;> rfl
  | _ => rfl

theorem run_passage (events : List RelayEvent) {k : Nat} (known : k < r.passages.length) :
    (r.run events).passages[k]? = (r.passages[k]?).map (·.run (eventsOf k events)) := by
  induction events generalizing r with
  | nil => simp [run, eventsOf, Passage.run]
  | cons e events ih =>
      obtain ⟨now, still⟩ := r.step_passage e known
      rw [run_cons, ih still, now, Option.map_map, eventsOf_cons k e events]
      refine congrFun (congrArg Option.map (funext fun p => ?_)) _
      exact (p.run_append _ _).symm

theorem run_listeners (events : List RelayEvent) :
    (r.run events).listeners.map (·.destination) = r.listeners.map (·.destination) := by
  induction events generalizing r with
  | nil => rfl
  | cons e events ih => exact ih.trans (r.step_listeners e)

theorem eventsOf_map_on (k : Nat) (happenings : List PassageEvent) :
    eventsOf k (happenings.map (.on k)) = happenings := by
  induction happenings with
  | nil => rfl
  | cons e happenings ih => rw [List.map_cons, eventsOf, if_pos rfl, ih]

theorem run_append_passage {events : List RelayEvent} {k : Nat} {p : Passage δ}
    (reached : (r.run events).passages[k]? = some p) (later : List RelayEvent) :
    (r.run (events ++ later)).passages[k]? = some (p.run (eventsOf k later)) := by
  have known := (List.getElem?_eq_some_iff.mp reached).1
  rw [run_append, run_passage later known, reached, Option.map_some]

theorem run_append_on {events : List RelayEvent} {k : Nat} {p : Passage δ}
    (reached : (r.run events).passages[k]? = some p) (happenings : List PassageEvent) :
    (r.run (events ++ happenings.map (.on k))).passages[k]? = some (p.run happenings) := by
  rw [run_append_passage reached, eventsOf_map_on]

theorem start_destinations (destinations : List δ) :
    (start destinations).listeners.map (·.destination) = destinations := by
  rw [start, List.map_map]
  exact List.map_id destinations

/-- A connection that was not there from the start has been accepted on a listener, and has
lived since by what happened to it. -/
theorem exists_accept {events : List RelayEvent} {k : Nat} {p : Passage δ}
    (reached : (r.run events).passages[k]? = some p) (unknown : r.passages.length ≤ k) :
    ∃ (before after : List RelayEvent) (i : Nat) (l : Listener δ),
      events = before ++ .accept i :: after ∧ (r.run before).passages.length = k ∧
        (r.run before).listeners[i]? = some l ∧
        p = Passage.run { listener := i, destination := l.destination } (eventsOf k after) := by
  induction events generalizing r with
  | nil =>
      have absent : r.passages[k]? = none := List.getElem?_eq_none unknown
      rw [show r.run [] = r from rfl, absent] at reached
      cases reached
  | cons e events ih =>
      rw [run_cons] at reached
      by_cases later : (r.step e).passages.length ≤ k
      · obtain ⟨before, after, i, l, rfl, count, found, lived⟩ := ih reached later
        exact ⟨e :: before, after, i, l, rfl, count, found, lived⟩
      rcases r.step_passages e with ⟨i, l, rfl, found, -, added⟩ | ⟨j, happening, -, changed⟩ |
        ⟨-, same⟩
      · have here : k = r.passages.length := by
          rw [added] at later
          simp at later
          omega
        subst here
        refine ⟨[], events, i, l, rfl, rfl, found, ?_⟩
        rw [run_passage events (by omega), added] at reached
        simpa [eq_comm] using reached
      · rw [changed, List.length_modify] at later
        exact absurd unknown later
      · rw [same] at later
        exact absurd unknown later

/-! ## Leaving one connection out -/

/-- Two relays that differ at most in one connection. -/
structure SameBut (k : Nat) (r q : Relay δ) : Prop where
  listeners : r.listeners = q.listeners
  stopping : r.stopping = q.stopping
  count : r.passages.length = q.passages.length
  others : ∀ j, j ≠ k → r.passages[j]? = q.passages[j]?

theorem SameBut.step {k : Nat} (same : SameBut k r q) (e : RelayEvent) :
    SameBut k (r.step e) (q.step e) := by
  have shut (i : Nat) : SameBut k (r.shut i) (q.shut i) :=
    ⟨by rw [Relay.shut, Relay.shut, same.listeners], same.stopping, same.count, same.others⟩
  cases e with
  | accept i =>
      simp only [Relay.step, accept, same.listeners]
      split
      · split
        · refine ⟨rfl, same.stopping, by simp [same.count], fun j other => ?_⟩
          rw [List.getElem?_append, List.getElem?_append, same.count, same.others j other]
        · exact same
      · exact same
  | acceptFailed i => exact shut i
  | signal => exact ⟨same.listeners, rfl, same.count, same.others⟩
  | leave i =>
      simp only [Relay.step, same.stopping]
      split
      · exact shut i
      · exact same
  | on j happening =>
      refine ⟨same.listeners, same.stopping, by simp [Relay.step, same.count], fun j' other => ?_⟩
      simp only [Relay.step, List.getElem?_modify, same.others j' other]

theorem sameBut_on (r : Relay δ) (k : Nat) (happening : PassageEvent) :
    SameBut k (r.step (.on k happening)) r := by
  refine ⟨rfl, rfl, by simp [step], fun j other => ?_⟩
  simp only [step, List.getElem?_modify, if_neg (Ne.symm other)]
  cases r.passages[j]? <;> rfl

theorem run_filter {k : Nat} (events : List RelayEvent) (same : SameBut k r q) :
    SameBut k (r.run events) (q.run (events.filter fun e => !e.isOn k)) := by
  induction events generalizing r q with
  | nil => exact same
  | cons e events ih =>
      cases on : e.isOn k with
      | false =>
          rw [List.filter_cons_of_pos (by simp [on])]
          exact ih (same.step e)
      | true =>
          rw [List.filter_cons_of_neg (by simp [on])]
          cases e with
          | on j happening =>
              obtain rfl : j = k := by simpa [RelayEvent.isOn] using on
              have unmoved := sameBut_on r j happening
              exact ih ⟨unmoved.listeners.trans same.listeners,
                unmoved.stopping.trans same.stopping, unmoved.count.trans same.count,
                fun i other => (unmoved.others i other).trans (same.others i other)⟩
          | accept i | acceptFailed i | signal | leave i => cases on

/-! ## The end of a relay -/

/-- The listeners of a relay that has come to its end are closed. -/
theorem closed_of_hasReturned (returned : r.hasReturned = true) {i : Nat} {l : Listener δ}
    (found : r.listeners[i]? = some l) : l.isOpen = false := by
  rw [hasReturned, Bool.and_eq_true, List.all_eq_true] at returned
  simpa using returned.2 l (List.mem_of_getElem? found)

/-- A relay that has come to its end accepts nothing, and stays as it is. -/
theorem step_hasReturned (returned : r.hasReturned = true) (e : RelayEvent) :
    (r.step e).hasReturned = true ∧ (r.step e).passages.length = r.passages.length := by
  have shut (i : Nat) : (r.shut i).hasReturned = true := by
    have stopped : r.stopping = true := (Bool.and_eq_true_iff.mp returned).1
    rw [hasReturned, Bool.and_eq_true]
    refine ⟨stopped, List.all_eq_true.mpr fun l mem => ?_⟩
    obtain ⟨j, found⟩ := List.mem_iff_getElem?.mp mem
    rw [shut_listeners, Option.map_eq_some_iff] at found
    obtain ⟨l', before, rfl⟩ := found
    have closed := closed_of_hasReturned returned before
    split
    · rfl
    · rw [closed]
      rfl
  cases e with
  | accept i =>
      simp only [step, accept]
      split
      · rename_i l found
        rw [closed_of_hasReturned returned found]
        exact ⟨returned, rfl⟩
      · exact ⟨returned, rfl⟩
  | acceptFailed i => exact ⟨shut i, rfl⟩
  | signal =>
      rw [hasReturned, Bool.and_eq_true] at returned
      exact ⟨by rw [hasReturned, Bool.and_eq_true]; exact ⟨rfl, returned.2⟩, rfl⟩
  | leave i =>
      simp only [step]
      split
      · exact ⟨shut i, rfl⟩
      · exact ⟨returned, rfl⟩
  | on k happening => exact ⟨returned, by simp [step]⟩

theorem run_hasReturned (returned : r.hasReturned = true) (events : List RelayEvent) :
    (r.run events).hasReturned = true ∧ (r.run events).passages.length = r.passages.length := by
  induction events generalizing r with
  | nil => exact ⟨returned, rfl⟩
  | cons e events ih =>
      obtain ⟨still, count⟩ := step_hasReturned returned e
      obtain ⟨last, sameCount⟩ := ih still
      exact ⟨last, sameCount.trans count⟩

/-- A listener stays as it is until something happens to close it. -/
theorem run_open {i : Nat} {l : Listener δ} (found : r.listeners[i]? = some l)
    (running : r.stopping = false) {events : List RelayEvent}
    (unsignalled : .signal ∉ events) (sound : .acceptFailed i ∉ events) :
    (r.run events).listeners[i]? = some l := by
  induction events generalizing r with
  | nil => exact found
  | cons e events ih =>
      rw [List.mem_cons, not_or] at unsignalled sound
      have kept : (r.step e).listeners[i]? = some l ∧ (r.step e).stopping = false := by
        cases e with
        | accept j =>
            simp only [step, accept]
            split
            · split <;> exact ⟨found, running⟩
            · exact ⟨found, running⟩
        | acceptFailed j =>
            have other : j ≠ i := fun same => sound.1 (same ▸ rfl)
            refine ⟨?_, running⟩
            rw [step, shut_listeners, found, Option.map_some, if_neg other]
        | signal => exact absurd rfl unsignalled.1
        | leave j =>
            rw [step, running]
            exact ⟨found, running⟩
        | on k happening => exact ⟨found, running⟩
      exact ih kept.1 kept.2 unsignalled.2 sound.2

/-- A relay that was told to stop remains told. -/
theorem run_stopping (stopping : r.stopping = true) (events : List RelayEvent) :
    (r.run events).stopping = true := by
  induction events generalizing r with
  | nil => exact stopping
  | cons e events ih =>
      refine ih ?_
      cases e with
      | accept i =>
          simp only [step, accept]
          split
          · split <;> exact stopping
          · exact stopping
      | acceptFailed i => exact stopping
      | signal => rfl
      | leave i =>
          rw [step]
          split <;> exact stopping
      | on k happening => exact stopping

theorem run_signal {events : List RelayEvent} (signalled : .signal ∈ events) :
    (r.run events).stopping = true := by
  obtain ⟨before, after, rfl⟩ := List.append_of_mem signalled
  rw [run_append, run_cons]
  exact run_stopping rfl after

/-- Once a relay has been told to stop, the listeners that leave are closed. -/
theorem run_leaves (stopping : r.stopping = true) (leaving : List Nat) (j : Nat) :
    (r.run (leaving.map .leave)).listeners[j]? = (r.listeners[j]?).map fun l =>
      if j ∈ leaving then { l with isOpen := false } else l := by
  induction leaving generalizing r with
  | nil => simp [run]
  | cons i leaving ih =>
      have left : r.step (.leave i) = r.shut i := if_pos stopping
      have still : (r.shut i).stopping = true := stopping
      rw [List.map_cons, run_cons, left, ih still, shut_listeners, Option.map_map]
      refine congrFun (congrArg Option.map (funext fun l => ?_)) _
      by_cases here : j = i
      · simp [here]
      · by_cases later : j ∈ leaving <;> simp [here, Ne.symm here, later]

/-! ## What the users of a relay rely on -/

/-- On a connection, after some events, a client that says its last is heard to the end, which the
far end is told of, and whatever the far end then says last comes back whole. -/
def HearsOut (relay : Relay δ) (events : List RelayEvent) (k : Nat) (p : Passage δ) : Prop :=
  ∀ request, ∃ there : List FlowEvent, (∀ e ∈ there, e.isSource = false) ∧
    let asked := events ++ (lastWords .outward request there).map (.on k)
    ∃ heard : Passage δ, (relay.run asked).passages[k]? = some heard ∧
      heard.outward.received = p.outward.sent ++ request ∧ heard.outward.closed = true ∧
      ∀ answer, ∃ back : List FlowEvent, (∀ e ∈ back, e.isSource = false) ∧
        ∃ q : Passage δ,
          (relay.run (asked ++ (lastWords .inward answer back).map (.on k))).passages[k]? = some q ∧
          q.inward.received = p.inward.sent ++ answer ∧ q.inward.closed = true ∧
          q.outward = heard.outward

/-- What the users of a relay with some destinations rely on, whatever happens and in whatever
order. -/
structure KeepsApart (relay : Relay δ) (destinations : List δ) : Prop where
  /-- Until the relay is told to stop, a listener that has not failed accepts connections. -/
  accepts : ∀ (events : List RelayEvent) i destination, destinations[i]? = some destination →
    .signal ∉ events → .acceptFailed i ∉ events →
      (relay.run (events ++ [.accept i])).passages =
        (relay.run events).passages ++ [{ listener := i, destination }]
  /-- Every connection has been accepted on a listener, is dialed to the destination of that
  listener, and is served faithfully in what has happened to it since. -/
  connection : ∀ events k p, (relay.run events).passages[k]? = some p →
    ∃ before after, events = before ++ .accept p.listener :: after ∧
      (relay.run before).passages.length = k ∧
      destinations[p.listener]? = some p.destination ∧
      p.Faithful (eventsOf k after)
  /-- It goes on by what happens to it, whatever else does, also when the relay is told to stop. -/
  goesOn : ∀ events later k (p : Passage δ), (relay.run events).passages[k]? = some p →
    (relay.run (events ++ later)).passages[k]? = some (p.run (eventsOf k later))
  /-- Where octets are copied and neither side has ended, both are heard to the end. -/
  answered : ∀ events k (p : Passage δ), (relay.run events).passages[k]? = some p →
    p.stage = .copying → p.outward.ended = false → p.inward.ended = false →
      relay.HearsOut events k p
  /-- What happens to one connection, a failed dial or copy included, changes no other. -/
  isolated : ∀ events k j, j ≠ k → (relay.run events).passages[j]? =
    (relay.run (events.filter fun e => !e.isOn k)).passages[j]?
  /-- A relay that has been told to stop comes to its end when its listeners have left. -/
  stops : ∀ events, .signal ∈ events → (relay.run
    (events ++ (List.range destinations.length).map .leave)).hasReturned = true
  /-- A relay that has come to its end accepts nothing more, and the connections that there are
  go on by what happens to them. -/
  returned : ∀ (events : List RelayEvent), (relay.run events).hasReturned = true → ∀ later,
    (relay.run (events ++ later)).hasReturned = true ∧
      ∀ k : Nat, (relay.run (events ++ later)).passages[k]? =
        ((relay.run events).passages[k]?).map (·.run (eventsOf k later))

/-- Every connection of a relay that has just been started has been accepted on one of its
listeners and has lived since by what happened to it. -/
theorem start_lived {destinations : List δ} {events : List RelayEvent} {k : Nat} {p : Passage δ}
    (reached : ((start destinations).run events).passages[k]? = some p) :
    ∃ before after i destination, events = before ++ .accept i :: after ∧
      ((start destinations).run before).passages.length = k ∧
      destinations[i]? = some destination ∧
      p = Passage.run { listener := i, destination } (eventsOf k after) := by
  obtain ⟨before, after, i, l, happened, count, accepting, lived⟩ :=
    exists_accept reached (Nat.zero_le k)
  have listed : destinations[i]? = some l.destination := by
    have same := (run_listeners before).trans (start_destinations destinations)
    rw [← same, List.getElem?_map, accepting, Option.map_some]
  exact ⟨before, after, i, l.destination, happened, count, listed, lived⟩

theorem start_hearsOut {destinations : List δ} {events : List RelayEvent} {k : Nat} {p : Passage δ}
    (reached : ((start destinations).run events).passages[k]? = some p)
    (copying : p.stage = .copying) (asking : p.outward.ended = false)
    (answering : p.inward.ended = false) : (start destinations).HearsOut events k p := by
  intro request
  have whole (d : Direction) : (p.flow d).Whole := by
    obtain ⟨before, after, i, destination, -, -, -, rfl⟩ := start_lived reached
    exact (Passage.run_whole i destination _ d).1
  obtain ⟨there, relayed, received, closed, still, others⟩ :=
    Passage.run_lastWords (d := .outward) copying (whole .outward) asking request
  generalize gone : p.run (lastWords .outward request there) = heard at received closed still others
  have unmoved : heard.flow .inward = p.flow .inward := others .inward (by decide)
  refine ⟨there, relayed, heard, ?_, received, closed, fun answer => ?_⟩
  · rw [run_append_on reached, gone]
  obtain ⟨back, relayed', received', closed', -, others'⟩ :=
    Passage.run_lastWords (d := .inward) still (by rw [unmoved]; exact whole .inward)
      (by rw [unmoved]; exact answering) answer
  rw [unmoved] at received'
  refine ⟨back, relayed', heard.run (lastWords .inward answer back), run_append_on ?_ _,
    received', closed', others' .outward (by decide)⟩
  rw [run_append_on reached, gone]

/-- Every relay that has just been started keeps its connections apart. -/
theorem start_keepsApart (destinations : List δ) :
    (start destinations).KeepsApart destinations := by
  have found {i : Nat} {destination : δ} (listed : destinations[i]? = some destination) :
      (start destinations).listeners[i]? = some { destination } := by
    simp [start, listed]
  constructor
  case accepts =>
    intro events i destination listed unsignalled sound
    have stillOpen := run_open (found listed) rfl unsignalled sound
    rw [run_append]
    show (((start destinations).run events).accept i).passages = _
    simp [accept, stillOpen]
  case connection =>
    intro events k p reached
    obtain ⟨before, after, i, destination, rfl, count, listed, lived⟩ := start_lived reached
    obtain ⟨sameListener, sameDestination⟩ :=
      ({ listener := i, destination } : Passage δ).run_destination (eventsOf k after)
    rw [← lived] at sameListener sameDestination
    refine ⟨before, after, by rw [sameListener], count, ?_, ?_⟩
    · rw [sameListener, sameDestination]
      exact listed
    · rw [lived]
      exact Passage.run_faithful ..
  case goesOn =>
    intro events later k p reached
    exact run_append_passage reached later
  case answered =>
    intro events k p reached copying asking answering
    exact start_hearsOut reached copying asking answering
  case isolated =>
    intro events k j other
    exact (run_filter events ⟨rfl, rfl, rfl, fun _ _ => rfl⟩).others j other
  case stops =>
    intro events signalled
    have stopping : ((start destinations).run events).stopping = true := run_signal signalled
    rw [run_append, hasReturned, run_stopping stopping, Bool.true_and, List.all_eq_true]
    intro l mem
    obtain ⟨j, there⟩ := List.mem_iff_getElem?.mp mem
    rw [run_leaves stopping, Option.map_eq_some_iff] at there
    obtain ⟨l', listed, rfl⟩ := there
    have count := congrArg List.length ((run_listeners events).trans (start_destinations destinations))
    have bound := (List.getElem?_eq_some_iff.mp listed).1
    rw [List.length_map] at count
    rw [if_pos (List.mem_range.mpr (count ▸ bound))]
    rfl
  case returned =>
    intro events returned later
    obtain ⟨still, count⟩ := run_hasReturned returned later
    rw [run_append]
    refine ⟨still, fun k => ?_⟩
    by_cases known : k < ((start destinations).run events).passages.length
    · exact run_passage later known
    · rw [List.getElem?_eq_none (by omega), List.getElem?_eq_none (by omega), Option.map_none]

end Relay

/-- A client that is answered gets the whole answer to the whole of what it has sent, also when
the far end waits for its end before it answers. -/
theorem exchange_answered (path : String) (answer : Bytes → Bytes) (request : Bytes) :
    exchange path (some answer) request = answer request := by
  simp [exchange, carry, socketRelay, Relay.start, Relay.run, Relay.step, Relay.accept,
    Passage.step, Passage.change, Stage.step, Stage.admits, Stage.isReached,
    FlowEvent.isSource, Flow.step, Flow.send, Flow.finish, Flow.take, Flow.deliver, Flow.close]

/-- The forwards to services keep their connections apart, each leading to the host and port of
its own route, and so does the local socket that stands for one of another host. A client of
that socket that asks and ends its side gets the whole answer to the whole of what it asked. -/
theorem connections_kept_apart :
    (∀ routes : List Route,
      (relay routes).KeepsApart (routes.map fun r => (r.host, r.remotePort))) ∧
    ∀ path : String, (socketRelay path).KeepsApart [path] ∧
      ∀ answer request, exchange path (some answer) request = answer request :=
  ⟨fun _ => Relay.start_keepsApart _, fun path =>
    ⟨Relay.start_keepsApart _, exchange_answered path⟩⟩

end ComposeSite.Forward
