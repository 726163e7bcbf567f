/-
# ComposeSite.Proofs.Forward.Passage -- octets on one connection

In one direction the octets that were sent are at every moment those that have been
received, those that the relay holds and those that are waiting, in this order
(`Flow.Whole`), so nothing is lost, doubled or reordered.  What was sent is read off the
events alone (`sayings`, `Flow.run_sent`).  A direction in which the relay has nothing
left to do has everything delivered, the end included (`Flow.delivered_of_atRest`), and
nothing that the relay does is in vain (`Flow.work_step`).

A connection runs each of its directions on the events that are timely there
(`Passage.run_flow`), and which events those are depends on how far the connection is, not
on the other direction (`timely_filter`).  How far it is depends on the first answer to the
dial and on whether copying has failed since (`Stage.run_reached`).  Of what the sources do,
everything is timely that a client does, and everything that a far end does once it has been
reached (`timely_speech`), so `Passage.Faithful` speaks of the history alone and not of what
the relay makes of it.
-/
import ComposeSite.Forward.Relay

set_option autoImplicit false

namespace ComposeSite.Forward

/-! ## One direction -/

namespace Flow

/-- Nothing is lost on the way, and the end is passed on last. -/
structure Whole (f : Flow) : Prop where
  parts : f.sent = f.received ++ f.held ++ f.waiting
  drained : f.closed = true → f.ended = true ∧ f.waiting = [] ∧ f.held = []

namespace Whole

variable {f : Flow}

theorem empty : Whole {} := ⟨rfl, fun closed => by cases closed⟩

theorem send (whole : f.Whole) (data : Bytes) : (f.send data).Whole := by
  rw [Flow.send]
  split
  · exact whole
  · rename_i going
    refine ⟨?_, fun closed => absurd (whole.drained closed).1 going⟩
    show f.sent ++ data = f.received ++ f.held ++ (f.waiting ++ data)
    rw [whole.parts, List.append_assoc _ f.waiting]

theorem finish (whole : f.Whole) : f.finish.Whole :=
  ⟨whole.parts, fun closed => ⟨rfl, (whole.drained closed).2⟩⟩

theorem take (whole : f.Whole) (n : Nat) : (f.take n).Whole := by
  refine ⟨?_, fun closed => ?_⟩
  · show f.sent = f.received ++ (f.held ++ f.waiting.take n) ++ f.waiting.drop n
    simp [whole.parts, List.append_assoc]
  · obtain ⟨ended, noneWaiting, noneHeld⟩ := whole.drained closed
    exact ⟨ended, by simp [Flow.take, noneWaiting], by simp [Flow.take, noneWaiting, noneHeld]⟩

theorem deliver (whole : f.Whole) (n : Nat) : (f.deliver n).Whole := by
  refine ⟨?_, fun closed => ?_⟩
  · show f.sent = f.received ++ f.held.take n ++ f.held.drop n ++ f.waiting
    rw [whole.parts, List.append_assoc f.received (f.held.take n), List.take_append_drop]
  · obtain ⟨ended, noneWaiting, noneHeld⟩ := whole.drained closed
    exact ⟨ended, noneWaiting, by simp [Flow.deliver, noneHeld]⟩

theorem close (whole : f.Whole) : f.close.Whole := by
  rw [Flow.close]
  split
  · rename_i done
    simp only [Bool.and_eq_true, List.isEmpty_iff] at done
    exact ⟨whole.parts, fun _ => ⟨done.1.1, done.1.2, done.2⟩⟩
  · exact whole

/-- What has been received is the beginning of what was sent. -/
theorem received_begins (whole : f.Whole) : f.received <+: f.sent :=
  ⟨f.held ++ f.waiting, by rw [whole.parts, List.append_assoc]⟩

theorem step (whole : f.Whole) (e : FlowEvent) : (f.step e).Whole := by
  cases e with
  | send data => exact whole.send data
  | finish => exact whole.finish
  | take most => exact whole.take most
  | deliver most => exact whole.deliver most
  | close => exact whole.close

theorem run (whole : f.Whole) (events : List FlowEvent) : (f.run events).Whole := by
  induction events generalizing f with
  | nil => exact whole
  | cons e events ih => exact ih (whole.step e)

end Whole

/-! ### What was sent -/

end Flow

/-- What a source says that brings about some events: the octets that it sends before it ends
its side. -/
def sayings : List FlowEvent → Bytes
  | [] => []
  | .send data :: events => data ++ sayings events
  | .finish :: _ => []
  | _ :: events => sayings events

namespace Flow

theorem run_cons (f : Flow) (e : FlowEvent) (events : List FlowEvent) :
    f.run (e :: events) = (f.step e).run events := rfl

/-- What the relay does is no saying of the source. -/
theorem step_relayed (f : Flow) {e : FlowEvent} (relayed : e.isSource = false) :
    (f.step e).sent = f.sent ∧ (f.step e).ended = f.ended := by
  cases e with
  | send data => cases relayed
  | finish => cases relayed
  | take most => exact ⟨rfl, rfl⟩
  | deliver most => exact ⟨rfl, rfl⟩
  | close =>
      show f.close.sent = f.sent ∧ f.close.ended = f.ended
      rw [close]
      split <;> exact ⟨rfl, rfl⟩

/-- A source that has ended its side says no more. -/
theorem run_sent_of_ended {f : Flow} (ended : f.ended = true) (events : List FlowEvent) :
    (f.run events).sent = f.sent ∧ (f.run events).ended = true := by
  induction events generalizing f with
  | nil => exact ⟨rfl, ended⟩
  | cons e events ih =>
      have kept : (f.step e).sent = f.sent ∧ (f.step e).ended = true := by
        cases source : e.isSource with
        | false =>
            obtain ⟨sent, same⟩ := f.step_relayed source
            exact ⟨sent, same.trans ended⟩
        | true =>
            cases e with
            | send data => simp [step, send, ended]
            | finish => exact ⟨rfl, rfl⟩
            | take most | deliver most | close => cases source
      obtain ⟨sent, still⟩ := ih kept.2
      exact ⟨sent.trans kept.1, still⟩

/-- What has been sent in all, and whether the source has ended its side, is read off the
events. -/
theorem run_sent {f : Flow} (going : f.ended = false) (events : List FlowEvent) :
    (f.run events).sent = f.sent ++ sayings events ∧
      (f.run events).ended = events.contains .finish := by
  induction events generalizing f with
  | nil => exact ⟨(List.append_nil _).symm, going⟩
  | cons e events ih =>
      rw [run_cons]
      cases source : e.isSource with
      | false =>
          obtain ⟨kept, same⟩ := f.step_relayed source
          obtain ⟨sent, ended⟩ := ih (same.trans going)
          rw [sent, ended, kept]
          cases e with
          | send data => cases source
          | finish => cases source
          | take most | deliver most | close => exact ⟨rfl, rfl⟩
      | true =>
          cases e with
          | send data =>
              have now : f.send data =
                  { f with sent := f.sent ++ data, waiting := f.waiting ++ data } := by
                rw [send, going]
                rfl
              obtain ⟨sent, ended⟩ := ih (f := f.send data) (by rw [now]; exact going)
              refine ⟨?_, ended⟩
              show ((f.send data).run events).sent = _
              rw [sent, now, sayings, List.append_assoc]
          | finish =>
              obtain ⟨sent, ended⟩ := run_sent_of_ended (f := f.finish) rfl events
              exact ⟨sent.trans (List.append_nil _).symm, ended⟩
          | take most | deliver most | close => cases source

/-! ### What is left to do -/

/-- How much there is left to do. -/
def work (f : Flow) : Nat :=
  2 * f.waiting.length + f.held.length + (if f.closed then 0 else 1)

theorem work_take (f : Flow) (n : Nat) : f.take n = f ∨ (f.take n).work < f.work := by
  cases taken : f.waiting.take n with
  | nil =>
      left
      have same : f.waiting.drop n = f.waiting := by
        simpa [taken] using List.take_append_drop n f.waiting
      simp [take, taken, same]
  | cons b bs =>
      right
      have split : (f.waiting.take n).length + (f.waiting.drop n).length = f.waiting.length := by
        rw [← List.length_append, List.take_append_drop]
      have some : 0 < (f.waiting.take n).length := by rw [taken]; exact Nat.zero_lt_succ _
      show 2 * (f.waiting.drop n).length + (f.held ++ f.waiting.take n).length +
        (if f.closed then 0 else 1) < f.work
      rw [work, List.length_append]
      omega

theorem work_deliver (f : Flow) (n : Nat) : f.deliver n = f ∨ (f.deliver n).work < f.work := by
  cases given : f.held.take n with
  | nil =>
      left
      have same : f.held.drop n = f.held := by
        simpa [given] using List.take_append_drop n f.held
      simp [deliver, given, same]
  | cons b bs =>
      right
      have split : (f.held.take n).length + (f.held.drop n).length = f.held.length := by
        rw [← List.length_append, List.take_append_drop]
      have some : 0 < (f.held.take n).length := by rw [given]; exact Nat.zero_lt_succ _
      show 2 * f.waiting.length + (f.held.drop n).length + (if f.closed then 0 else 1) < f.work
      rw [work]
      omega

theorem work_close (f : Flow) : f.close = f ∨ f.close.work < f.work := by
  rw [close]
  split
  · cases closed : f.closed with
    | true =>
        left
        rw [← closed]
    | false =>
        right
        simp [work, closed]
  · exact .inl rfl

theorem work_step {f : Flow} {e : FlowEvent} (relayed : e.isSource = false) :
    f.step e = f ∨ (f.step e).work < f.work := by
  cases e with
  | send data => cases relayed
  | finish => cases relayed
  | take most => exact f.work_take most
  | deliver most => exact f.work_deliver most
  | close => exact f.work_close

/-- The relay has nothing to do in a direction. -/
def AtRest (f : Flow) : Prop := ∀ e : FlowEvent, e.isSource = false → f.step e = f

/-- Where the relay has nothing to do, everything has been delivered and the end passed on. -/
theorem delivered_of_atRest {f : Flow} (whole : f.Whole) (rest : f.AtRest) :
    f.received = f.sent ∧ f.closed = f.ended := by
  have noneWaiting : f.waiting = [] := by
    have same : f.waiting.drop f.waiting.length = f.waiting :=
      congrArg Flow.waiting (rest (.take f.waiting.length) rfl)
    simpa using same.symm
  have noneHeld : f.held = [] := by
    have same : f.held.drop f.held.length = f.held :=
      congrArg Flow.held (rest (.deliver f.held.length) rfl)
    simpa using same.symm
  refine ⟨by simp [whole.parts, noneWaiting, noneHeld], ?_⟩
  cases ended : f.ended with
  | true =>
      have same : f.close.closed = f.closed := congrArg Flow.closed (rest .close rfl)
      rw [← same, close]
      simp [ended, noneWaiting, noneHeld]
  | false =>
      cases closed : f.closed with
      | true => exact absurd (whole.drained closed).1 (by simp [ended])
      | false => rfl

/-- What the relay does to bring everything that has been sent to the other end. -/
def drain (f : Flow) : List FlowEvent :=
  [.take f.waiting.length, .deliver (f.held ++ f.waiting).length, .close]

theorem run_drain {f : Flow} (whole : f.Whole) :
    (f.run f.drain).received = f.sent ∧ (f.run f.drain).closed = f.ended := by
  have taken : f.take f.waiting.length = { f with held := f.held ++ f.waiting, waiting := [] } := by
    simp [take]
  have drained : f.run f.drain =
      ({ f with waiting := [], held := [], received := f.sent } : Flow).close := by
    show ((f.take f.waiting.length).deliver (f.held ++ f.waiting).length).close = _
    rw [taken, deliver, List.take_length, List.drop_length, whole.parts, List.append_assoc]
  rw [drained, close]
  cases ended : f.ended with
  | true => exact ⟨rfl, rfl⟩
  | false =>
      refine ⟨rfl, ?_⟩
      cases closed : f.closed with
      | true => exact absurd (whole.drained closed).1 (by simp [ended])
      | false => rfl

end Flow

/-! ## The directions of a connection -/

/-- The events of a direction that come at their time, from a stage on. -/
def timely (d : Direction) : Stage → List PassageEvent → List FlowEvent
  | _, [] => []
  | s, .flow d' e :: events =>
      if d' = d ∧ s.admits d e then e :: timely d s events else timely d s events
  | s, e :: events => timely d (s.step e) events

/-- Whether an event is about a direction, or about the connection as a whole. -/
def PassageEvent.concerns (d : Direction) : PassageEvent → Bool
  | .flow d' _ => d' = d
  | _ => true

/-- What happens in the other direction has no bearing on what is timely. -/
theorem timely_filter (d : Direction) (s : Stage) (events : List PassageEvent) :
    timely d s (events.filter (·.concerns d)) = timely d s events := by
  induction events generalizing s with
  | nil => rfl
  | cons e events ih =>
      cases e with
      | dialed success => exact ih _
      | fail => exact ih _
      | flow d' e =>
          by_cases here : d' = d
          · rw [List.filter_cons_of_pos (by simpa [PassageEvent.concerns] using here)]
            simp only [timely, ih]
          · rw [List.filter_cons_of_neg (by simpa [PassageEvent.concerns] using here), ih]
            simp [timely, here]

/-- What happens in the other direction is no event of this one. -/
theorem timely_other {d d' : Direction} (other : d' ≠ d) (s : Stage) (events : List FlowEvent) :
    timely d s (events.map (.flow d')) = [] := by
  induction events with
  | nil => rfl
  | cons e events ih => simpa [timely, other] using ih

/-- While octets are copied, everything is timely. -/
theorem timely_copying (d : Direction) (events : List FlowEvent) :
    timely d .copying (events.map (.flow d)) = events := by
  induction events with
  | nil => rfl
  | cons e events ih =>
      have now : Stage.copying.admits d e = true := by simp [Stage.admits, Stage.isReached]
      rw [List.map_cons, timely, if_pos ⟨rfl, now⟩, ih]

/-! ### How far a connection is -/

/-- The far end has not answered the dial yet. -/
def Undialed (history : List PassageEvent) : Prop := ∀ success, .dialed success ∉ history

namespace Stage

/-- What events make of a stage. -/
def run (s : Stage) (events : List PassageEvent) : Stage := events.foldl step s

theorem run_cons (s : Stage) (e : PassageEvent) (events : List PassageEvent) :
    s.run (e :: events) = (s.step e).run events := rfl

theorem run_undialed {history : List PassageEvent} (undialed : Undialed history) :
    dialing.run history = .dialing := by
  induction history with
  | nil => rfl
  | cons e events ih =>
      have later : Undialed events := fun success mem =>
        undialed success (List.mem_cons_of_mem e mem)
      cases e with
      | dialed success => exact absurd List.mem_cons_self (undialed success)
      | flow d e | fail => exact ih later

theorem run_refused (events : List PassageEvent) : refused.run events = .refused := by
  induction events with
  | nil => rfl
  | cons e events ih => cases e <;> exact ih

theorem run_broken (events : List PassageEvent) : broken.run events = .broken := by
  induction events with
  | nil => rfl
  | cons e events ih => cases e <;> exact ih

theorem run_copying (events : List PassageEvent) :
    copying.run events = if .fail ∈ events then .broken else .copying := by
  induction events with
  | nil => rfl
  | cons e events ih =>
      cases e with
      | dialed success | flow d e => simpa [run_cons, step] using ih
      | fail => simpa [run_cons, step] using run_broken events

/-- The first answer to the dial decides; once it is a success, octets are copied until that
fails. -/
theorem run_reached {before : List PassageEvent} (undialed : Undialed before) (success : Bool)
    (after : List PassageEvent) :
    dialing.run (before ++ .dialed success :: after) =
      if success = true then if .fail ∈ after then .broken else .copying else .refused := by
  have first : dialing.run (before ++ .dialed success :: after) =
      (dialing.step (.dialed success)).run after := by
    rw [run, List.foldl_append]
    show (dialing.run before).run (.dialed success :: after) = _
    rw [run_undialed undialed, run_cons]
  rw [first]
  cases success with
  | true => exact run_copying after
  | false => exact run_refused after

theorem isReached_step {s : Stage} (reached : s.isReached = true) (e : PassageEvent) :
    (s.step e).isReached = true := by
  cases s with
  | dialing | refused => cases reached
  | copying | broken => cases e <;> rfl

end Stage

/-! ### What the ends of a connection say -/

/-- What the source of a direction does, whether or not it is the time for it. -/
def spoken (d : Direction) : List PassageEvent → List FlowEvent
  | [] => []
  | .flow d' e :: events =>
      if d' = d ∧ e.isSource = true then e :: spoken d events else spoken d events
  | _ :: events => spoken d events

/-- What has happened since the far end was reached. -/
def sinceReached : List PassageEvent → List PassageEvent
  | [] => []
  | .dialed true :: events => events
  | .dialed false :: _ => []
  | _ :: events => sinceReached events

/-- What the source of a direction does that counts: a client may speak from the start, a far
end once it has been reached. -/
def speech : Direction → List PassageEvent → List FlowEvent
  | .outward, history => spoken .outward history
  | .inward, history => spoken .inward (sinceReached history)

/-- The source of a direction says its last and ends its side, and the relay makes some moves. -/
def lastWords (d : Direction) (data : Bytes) (moves : List FlowEvent) : List PassageEvent :=
  (.send data :: .finish :: moves).map (.flow d)

theorem timely_spoken {d : Direction} {s : Stage} (may : d = .outward ∨ s.isReached = true)
    (events : List PassageEvent) : (timely d s events).filter (·.isSource) = spoken d events := by
  induction events generalizing s with
  | nil => rfl
  | cons e events ih =>
      cases e with
      | dialed success => exact ih (may.imp_right (Stage.isReached_step · _))
      | fail => exact ih (may.imp_right (Stage.isReached_step · _))
      | flow d' e =>
          by_cases here : d' = d
          · cases source : e.isSource with
            | false =>
                simp only [timely, spoken, source]
                split <;> simp [source, ih may]
            | true =>
                have now : s.admits d e = true := by simp [Stage.admits, source, may]
                simp [timely, spoken, source, now, here, ih may]
          · simp [timely, spoken, here, ih may]

theorem timely_refused (events : List PassageEvent) : timely .inward .refused events = [] := by
  induction events with
  | nil => rfl
  | cons e events ih =>
      cases e with
      | dialed success => exact ih
      | fail => exact ih
      | flow d e =>
          have never : Stage.refused.admits .inward e = false := by cases e <;> rfl
          rw [timely, if_neg (by rintro ⟨rfl, now⟩; simp [never] at now), ih]

/-- Everything that a client does is timely, and everything that a far end does once it has been
reached. -/
theorem timely_speech (d : Direction) (history : List PassageEvent) :
    (timely d .dialing history).filter (·.isSource) = speech d history := by
  cases d with
  | outward => exact timely_spoken (.inl rfl) history
  | inward =>
      induction history with
      | nil => rfl
      | cons e events ih =>
          cases e with
          | dialed success =>
              cases success with
              | true => exact timely_spoken (.inr rfl) events
              | false => exact congrArg _ (timely_refused events)
          | fail => exact ih
          | flow d e =>
              have early : Stage.dialing.admits .inward e = false := by cases e <;> rfl
              rw [timely, if_neg (by rintro ⟨rfl, now⟩; simp [early] at now)]
              exact ih

theorem sayings_sources (events : List FlowEvent) :
    sayings (events.filter (·.isSource)) = sayings events := by
  induction events with
  | nil => rfl
  | cons e events ih =>
      cases e with
      | send data => exact congrArg (data ++ ·) ih
      | finish => rfl
      | take | deliver | close => exact ih

theorem finish_sources (events : List FlowEvent) :
    (events.filter (·.isSource)).contains .finish = events.contains .finish := by
  rw [Bool.eq_iff_iff]
  simp [FlowEvent.isSource]

namespace Passage

variable {δ : Type} {p : Passage δ} {d : Direction}

theorem step_destination (p : Passage δ) (e : PassageEvent) :
    (p.step e).listener = p.listener ∧ (p.step e).destination = p.destination := by
  cases e with
  | flow d e =>
      simp only [step]
      split
      · cases d <;> exact ⟨rfl, rfl⟩
      · exact ⟨rfl, rfl⟩
  | dialed success => exact ⟨rfl, rfl⟩
  | fail => exact ⟨rfl, rfl⟩

theorem step_stage (p : Passage δ) (e : PassageEvent) : (p.step e).stage = p.stage.step e := by
  cases e with
  | flow d e =>
      simp only [step]
      split
      · cases d <;> rfl
      · rfl
  | dialed success => rfl
  | fail => rfl

/-- One direction takes part in an event only if the event is its own and timely. -/
theorem step_flow (p : Passage δ) (e : PassageEvent) :
    (p.step e).flow d = (p.flow d).run (timely d p.stage [e]) := by
  cases e with
  | dialed success => cases d <;> rfl
  | fail => cases d <;> rfl
  | flow d' e =>
      simp only [step, timely]
      cases timelyHere : p.stage.admits d' e with
      | false =>
          rw [if_neg (by simp), if_neg (by rintro ⟨rfl, now⟩; simp [timelyHere] at now)]
          rfl
      | true =>
          rw [if_pos rfl]
          by_cases here : d' = d
          · subst here
            rw [if_pos ⟨rfl, timelyHere⟩]
            cases d' <;> rfl
          · rw [if_neg (by simp [here])]
            cases d <;> cases d' <;> first | rfl | exact absurd rfl here

theorem timely_cons (s : Stage) (e : PassageEvent) (events : List PassageEvent) :
    timely d s (e :: events) = timely d s [e] ++ timely d (s.step e) events := by
  cases e with
  | dialed success => rfl
  | fail => rfl
  | flow d' e =>
      simp only [timely, Stage.step]
      split <;> rfl

/-- A connection runs its directions each on its own. -/
theorem run_flow (p : Passage δ) (events : List PassageEvent) :
    (p.run events).flow d = (p.flow d).run (timely d p.stage events) := by
  induction events generalizing p with
  | nil => rfl
  | cons e events ih =>
      show ((p.step e).run events).flow d = _
      rw [ih, step_flow, step_stage, timely_cons p.stage e events]
      exact (List.foldl_append ..).symm

theorem run_destination (p : Passage δ) (events : List PassageEvent) :
    (p.run events).listener = p.listener ∧ (p.run events).destination = p.destination := by
  induction events generalizing p with
  | nil => exact ⟨rfl, rfl⟩
  | cons e events ih =>
      obtain ⟨listener, destination⟩ := ih (p.step e)
      obtain ⟨listener', destination'⟩ := p.step_destination e
      exact ⟨listener.trans listener', destination.trans destination'⟩

theorem run_append (p : Passage δ) (first second : List PassageEvent) :
    p.run (first ++ second) = (p.run first).run second := List.foldl_append ..

theorem run_stage (p : Passage δ) (events : List PassageEvent) :
    (p.run events).stage = p.stage.run events := by
  induction events generalizing p with
  | nil => rfl
  | cons e events ih =>
      show ((p.step e).run events).stage = _
      rw [ih, step_stage, Stage.run_cons]

/-- On a connection that has been accepted and lived since, each direction is whole, and what was
sent there and whether the source has ended its side is read off the history. -/
theorem run_whole (listener : Nat) (destination : δ) (history : List PassageEvent)
    (d : Direction) :
    let f := (Passage.run { listener, destination } history).flow d
    f.Whole ∧ f.sent = sayings (speech d history) ∧
      f.ended = (speech d history).contains .finish := by
  have unused : ({ listener, destination } : Passage δ).flow d = {} := by cases d <;> rfl
  rw [run_flow, unused, ← timely_speech, sayings_sources, finish_sources]
  exact ⟨Flow.Whole.empty.run _, Flow.run_sent rfl _⟩

/-! ## What the ends of a connection rely on -/

/-- What the two ends of a connection rely on, given what has happened to it since it was
accepted. -/
structure Faithful (p : Passage δ) (history : List PassageEvent) : Prop where
  /-- The connection is what has happened to it. -/
  lived : p = Passage.run { listener := p.listener, destination := p.destination } history
  /-- It waits for its far end. -/
  waits : Undialed history → p.stage = .dialing
  /-- Where the far end cannot be reached, it has come to nothing. -/
  refused : ∀ before after, history = before ++ .dialed false :: after → Undialed before →
    p.stage = .refused
  /-- Once the far end has been reached, octets are copied until that fails. -/
  reached : ∀ before after, history = before ++ .dialed true :: after → Undialed before →
    p.stage = if .fail ∈ after then .broken else .copying
  /-- Only while octets are copied does the relay do anything. -/
  idle : ∀ d e, e.isSource = false → p.stage ≠ .copying → p.step (.flow d e) = p
  /-- What has been sent is what the source has said, and nothing after its end. -/
  said : ∀ d, (p.flow d).sent = sayings (speech d history) ∧
    (p.flow d).ended = (speech d history).contains .finish
  /-- None of it is lost, doubled or reordered. -/
  whole : ∀ d, sayings (speech d history) =
    (p.flow d).received ++ (p.flow d).held ++ (p.flow d).waiting
  /-- What has been received is the beginning of what was said. -/
  arrives : ∀ d, (p.flow d).received <+: sayings (speech d history)
  /-- The end is passed on only if there is one, and behind everything that was said. -/
  ends : ∀ d, (p.flow d).closed = true →
    .finish ∈ speech d history ∧ (p.flow d).received = sayings (speech d history)
  /-- What happens in the other direction, its end included, makes no difference. -/
  apart : ∀ d, p.flow d = (Passage.run { listener := p.listener, destination := p.destination }
    (history.filter (·.concerns d))).flow d
  /-- Once copying has nothing left to do, everything has arrived, the end included. -/
  delivered : ∀ d, (p.flow d).AtRest →
    (p.flow d).received = sayings (speech d history) ∧
      (p.flow d).closed = (speech d history).contains .finish
  /-- Nothing that is done on the way there is in vain. -/
  progress : ∀ d e, e.isSource = false → p.stage = .copying → p.step (.flow d e) = p ∨
    ((p.step (.flow d e)).flow d).work < (p.flow d).work
  /-- While octets are copied, copying can get there on its own. -/
  drains : p.stage = .copying → ∀ d, ∃ moves : List FlowEvent,
    (∀ e ∈ moves, e.isSource = false) ∧
      let after := (p.run (moves.map (.flow d))).flow d
      after.received = sayings (speech d history) ∧
        after.closed = (speech d history).contains .finish

/-- Whatever happens to a connection, both ends are served faithfully. -/
theorem run_faithful (listener : Nat) (destination : δ) (history : List PassageEvent) :
    (Passage.run { listener, destination } history).Faithful history := by
  generalize started : ({ listener, destination } : Passage δ) = fresh
  generalize ended : fresh.run history = p
  have kept : p.listener = fresh.listener ∧ p.destination = fresh.destination := by
    rw [← ended]
    exact fresh.run_destination history
  have again : ({ listener := p.listener, destination := p.destination } : Passage δ) = fresh := by
    rw [kept.1, kept.2, ← started]
  have dialing : fresh.stage = .dialing := by rw [← started]
  have stage : p.stage = Stage.dialing.run history := by rw [← ended, run_stage, dialing]
  have lived (d : Direction) : (p.flow d).Whole ∧ (p.flow d).sent = sayings (speech d history) ∧
      (p.flow d).ended = (speech d history).contains .finish := by
    rw [← ended, ← started]
    exact run_whole listener destination history d
  constructor
  case lived => rw [again, ended]
  case waits =>
    intro undialed
    rw [stage, Stage.run_undialed undialed]
  case refused =>
    intro before after happened undialed
    rw [stage, happened, Stage.run_reached undialed, if_neg (by simp)]
  case reached =>
    intro before after happened undialed
    rw [stage, happened, Stage.run_reached undialed, if_pos rfl]
  case idle =>
    intro d e relayed elsewhere
    have early : p.stage.admits d e = false := by simp [Stage.admits, relayed, elsewhere]
    exact if_neg (by simp [early])
  case said => exact fun d => (lived d).2
  case whole =>
    intro d
    rw [← (lived d).2.1]
    exact (lived d).1.parts
  case arrives =>
    intro d
    rw [← (lived d).2.1]
    exact (lived d).1.received_begins
  case ends =>
    intro d closed
    obtain ⟨whole, sent, finished⟩ := lived d
    obtain ⟨isEnded, noneWaiting, noneHeld⟩ := whole.drained closed
    refine ⟨by simpa using finished.symm.trans isEnded, ?_⟩
    rw [← sent, whole.parts, noneWaiting, noneHeld, List.append_nil, List.append_nil]
  case apart =>
    intro d
    rw [again, run_flow, timely_filter, ← run_flow, ended]
  case delivered =>
    intro d rest
    rw [← (lived d).2.1, ← (lived d).2.2]
    exact Flow.delivered_of_atRest (lived d).1 rest
  case progress =>
    intro d e relayed copying
    have now : p.stage.admits d e = true := by
      rw [Stage.admits, relayed, copying]
      rfl
    have moved : p.step (.flow d e) = p.change d e := if_pos now
    rw [moved]
    rcases Flow.work_step (f := p.flow d) relayed with same | less
    · left
      cases d
      · exact congrArg (fun f => { p with outward := f }) same
      · exact congrArg (fun f => { p with inward := f }) same
    · right
      cases d <;> exact less
  case drains =>
    intro copying d
    refine ⟨(p.flow d).drain, by simp [Flow.drain, FlowEvent.isSource], ?_⟩
    rw [run_flow, copying, timely_copying, ← (lived d).2.1, ← (lived d).2.2]
    exact Flow.run_drain (lived d).1

/-! ## One side says its last -/

/-- What a source says last is brought to the other end, and so is its end, while the other
direction stays as it is. -/
theorem run_lastWords {p : Passage δ} (copying : p.stage = .copying) (whole : (p.flow d).Whole)
    (going : (p.flow d).ended = false) (data : Bytes) :
    ∃ moves : List FlowEvent, (∀ e ∈ moves, e.isSource = false) ∧
      let after := p.run (lastWords d data moves)
      (after.flow d).received = (p.flow d).sent ++ data ∧ (after.flow d).closed = true ∧
        after.stage = .copying ∧ ∀ other, other ≠ d → after.flow other = p.flow other := by
  let spoken := ((p.flow d).send data).finish
  have sent : spoken.sent = (p.flow d).sent ++ data := by
    show ((p.flow d).send data).sent = _
    rw [Flow.send, going]
    rfl
  obtain ⟨received, closed⟩ := Flow.run_drain (whole.send data).finish
  refine ⟨spoken.drain, by simp [Flow.drain, FlowEvent.isSource], ?_, ?_, ?_,
    fun other differs => ?_⟩
  · rw [run_flow, copying, lastWords, timely_copying]
    exact received.trans sent
  · rw [run_flow, copying, lastWords, timely_copying]
    exact closed
  · rw [run_stage, copying, Stage.run_copying, if_neg (by simp [lastWords])]
  · rw [run_flow, lastWords, timely_other differs.symm]
    rfl

end Passage

end ComposeSite.Forward
