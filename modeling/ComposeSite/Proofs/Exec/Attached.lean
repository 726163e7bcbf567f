/-
# ComposeSite.Proofs.Exec.Attached -- input never decides how an exec ends

The two sides of an exec that is followed take their turns in any order.  A turn of either
changes neither what comes of the output in the end nor what comes of the input in the end, and
an exec that waits is over only when its input has been closed (`Attached.keeps_step`).  So
whatever turns are taken (`Attached.keeps_run`), an exec ends as if all of its output had been
copied at once (`Attached.settle_run`), unless it waits and there is nobody to close its input;
and one that waited has been given its input in full.
-/
import ComposeSite.Proofs.Exec.Cutting

set_option autoImplicit false

namespace ComposeSite.Exec

open Output

/-! ## Output -/

namespace Delivery

/-- A turn does not change what comes of output in the end. -/
@[simp]
theorem finish_step (d : Delivery) : d.step.finish = d.finish := by
  cases d with
  | raw stdout stderr reads =>
      match reads with
      | [] | .chunk [] :: _ | .failure _ :: _ => rfl
      | .chunk (b :: bs) :: rest =>
          simp only [step, finish, copy]
          rcases stdout.write (b :: bs) with ⟨stdout', _ | _⟩ <;> rfl
  | framed c =>
      simp only [step]
      cases turned : c.turn with
      | more next => simp only [finish, Copying.run_more turned]
      | done s => simp only [finish, Copying.run_done turned]
  | ended d => rfl

theorem finish_of_delivered {d : Delivery} {all : Delivered} (reached : d.delivered? = some all) :
    d.finish = all := by
  cases d with
  | ended _ => exact Option.some.inj reached
  | raw _ _ _ | framed _ => cases reached

theorem start_unfinished (tty : Bool) (stdout stderr : Sink) (reads : List Read) :
    (start tty stdout stderr reads).delivered? = none := by
  cases tty <;> rfl

end Delivery

/-! ## Input -/

namespace Pump

theorem finish_closed (p : Pump) (closed : p.closed = true) : p.finish = p := if_pos closed

/-- A turn does not change what comes of input in the end. -/
@[simp]
theorem finish_step (p : Pump) : p.step.finish = p.finish := by
  rcases p with ⟨reads, given, _ | _⟩
  · match reads with
    | [] | .chunk [] :: _ | .failure _ :: _ => rfl
    | .chunk (b :: bs) :: rest =>
        simp only [step, finish, drain]
        rcases given.write (b :: bs) with ⟨given', _ | _⟩ <;> rfl
  · rfl

/-- Input is copied as one write of what its reads bring, and then closed. -/
theorem drain_written (given : Sink) (reads : List Read) :
    (drain given reads).given = (given.write (arrived reads)).1 ∧
      (drain given reads).closed = true := by
  induction reads generalizing given with
  | nil => simp [drain, arrived]
  | cons r later ih =>
      rcases r with (_ | ⟨b, bs⟩) | text
      · simp [drain, arrived]
      · have brings : arrived (.chunk (b :: bs) :: later) = b :: bs ++ arrived later := rfl
        have fit : given.fits (b :: bs) = (given.write (b :: bs)).2 := rfl
        rw [drain, brings, Sink.write_append, fit]
        rcases given.write (b :: bs) with ⟨given', _ | _⟩
        · exact ⟨rfl, rfl⟩
        · exact ih given'
      · simp [drain, arrived]

theorem closed_finish (p : Pump) : p.finish.closed = true := by
  rw [finish]
  split
  · assumption
  · exact (drain_written p.given p.reads).2

/-- What has been given is the start of what is given in the end. -/
theorem given_prefix (p : Pump) : p.given.accepted <+: p.finish.given.accepted := by
  rw [finish]
  split
  · exact List.prefix_rfl
  · rw [(drain_written p.given p.reads).1]
    exact List.prefix_append _ _

end Pump

/-! ## Both -/

namespace Attached

/-- The exec never comes to an end: it waits for its input, and there is none. -/
def endless (a : Attached) : Bool := a.waits && a.pump.isNone

/-- A later state of an exec that is followed has the same to come to: it waits or does not, all
of its output and all of its input will be copied as before, and it is over only if it had been
ready. -/
structure Keeps (a later : Attached) : Prop where
  waits : later.waits = a.waits
  pump : later.pump.map Pump.finish = a.pump.map Pump.finish
  delivery : later.delivery.finish = a.delivery.finish
  ready : later.delivery.delivered?.isSome → later.ready

/-- **One turn.** -/
theorem keeps_step {a later : Attached} (keeps : a.Keeps later) (side : Side) :
    a.Keeps (later.step side) := by
  obtain ⟨waits, pump, delivery, ready⟩ := keeps
  cases side with
  | input =>
      rw [step]
      split
      · exact ⟨waits, pump, delivery, ready⟩
      · rename_i going
        refine ⟨waits, ?_, delivery, fun isOver => absurd isOver going⟩
        rw [← pump, Option.map_map]
        exact congrArg (later.pump.map ·) (funext Pump.finish_step)
  | output =>
      by_cases isReady : later.ready
      · rw [step, if_pos isReady]
        exact ⟨waits, pump, (Delivery.finish_step _).trans delivery, fun _ => isReady⟩
      · rw [step, if_neg isReady]
        exact ⟨waits, pump, delivery, ready⟩

/-- **All turns.** -/
theorem keeps_run {a later : Attached} (keeps : a.Keeps later) (schedule : List Side) :
    a.Keeps (later.run schedule) := by
  induction schedule generalizing later with
  | nil => exact keeps
  | cons side schedule ih => exact ih (keeps_step keeps side)

/-- What the exec is given of its input in the end. -/
def allGiven (a : Attached) : Bytes := (a.pump.map (·.finish.given.accepted)).getD []

/-- Settling an exec leaves the same to come to, and it is over then unless it never comes to an
end; if it waits, all of its input has been copied. -/
theorem settle_spec (a : Attached) (sound : a.delivery.delivered?.isSome → a.ready) :
    a.Keeps a.settle ∧
      a.settle.delivery.delivered? = (if a.endless then none else some a.delivery.finish) ∧
      (a.waits = true → a.settle.pump = a.pump.map Pump.finish) := by
  rcases a with ⟨waits, pump, delivery⟩
  cases reached : delivery.delivered? with
  | some all =>
      have isReady : ready ⟨waits, pump, delivery⟩ := sound (by rw [reached]; rfl)
      have same : settle ⟨waits, pump, delivery⟩ = ⟨waits, pump, delivery⟩ := by
        simp only [settle, reached, Option.isSome_some, if_true]
      rw [same]
      refine ⟨⟨rfl, rfl, rfl, fun _ => isReady⟩, ?_, fun isWaiting => ?_⟩
      · rw [reached, Delivery.finish_of_delivered reached]
        cases pump with
        | none =>
            simp only [ready, Option.any_none, Bool.or_false, Bool.not_eq_true'] at isReady
            simp [endless, isReady]
        | some p => simp [endless]
      · cases pump with
        | none => rfl
        | some p =>
            have closed : p.closed = true := by
              simpa [ready, show waits = true from isWaiting] using isReady
            rw [Option.map_some, p.finish_closed closed]
  | none =>
      have finished (p : Pump) : p.finish.finish = p.finish := p.finish.finish_closed p.closed_finish
      have settled : settle ⟨waits, pump, delivery⟩ =
          if ready ⟨waits, pump.map Pump.finish, delivery⟩ then
            ⟨waits, pump.map Pump.finish, .ended delivery.finish⟩
          else ⟨waits, pump.map Pump.finish, delivery⟩ := by
        simp only [settle, reached, Option.isSome_none, Bool.false_eq_true, if_false]
      have inputs : (pump.map Pump.finish).map Pump.finish = pump.map Pump.finish := by
        rw [Option.map_map]
        exact congrArg (pump.map ·) (funext finished)
      have isReady : ready ⟨waits, pump.map Pump.finish, delivery⟩ =
          !endless ⟨waits, pump, delivery⟩ := by
        cases pump with
        | none => simp [ready, endless]
        | some p => simp [ready, endless, p.closed_finish]
      rw [settled, isReady]
      cases ends : endless ⟨waits, pump, delivery⟩ with
      | true =>
          refine ⟨⟨rfl, inputs, rfl, fun isOver => ?_⟩, reached, fun _ => rfl⟩
          have none : delivery.delivered?.isSome = true := isOver
          rw [reached] at none
          cases none
      | false =>
          refine ⟨⟨rfl, inputs, rfl, fun _ => ?_⟩, rfl, fun _ => rfl⟩
          rw [ends] at isReady
          exact isReady

/-- **However the turns are taken**, an exec that is not over yet ends as if all of its output had
been copied at once, unless it never comes to an end. What it has been given then is a start of
its input; if it waited, it is all of it, and it has been closed. -/
theorem settle_run {a : Attached} (fresh : a.delivery.delivered? = none) (schedule : List Side) :
    let ended := (a.run schedule).settle
    ended.delivery.delivered? = (if a.endless then none else some a.delivery.finish) ∧
      ended.fed.awaited = a.waits ∧ ended.fed.octets <+: a.allGiven ∧
      (a.waits = true → ended.fed = ⟨a.allGiven, a.pump.isSome, true⟩) ∧
      (a.pump = none → ended.fed = ⟨[], false, a.waits⟩) := by
  intro ended
  have start : a.Keeps a := ⟨rfl, rfl, rfl, fun isOver => by rw [fresh] at isOver; cases isOver⟩
  obtain ⟨waits, pump, delivery, sound⟩ := keeps_run start schedule
  obtain ⟨⟨waits', pump', -, -⟩, reached, full⟩ := settle_spec (a.run schedule) sound
  have isWaiting : ended.waits = a.waits := waits'.trans waits
  have inputs : ended.pump.map Pump.finish = a.pump.map Pump.finish := pump'.trans pump
  have never : (a.run schedule).endless = a.endless := by
    have none := congrArg Option.isNone pump
    rw [Option.isNone_map, Option.isNone_map] at none
    rw [endless, endless, waits, none]
  rw [never, delivery] at reached
  refine ⟨reached, isWaiting, ?_, fun waiting => ?_, fun none => ?_⟩
  · rw [allGiven]
    cases left : ended.pump with
    | none => simp [fed, left]
    | some p =>
        rw [left] at inputs
        obtain ⟨whole, there, same⟩ := Option.map_eq_some_iff.mp inputs.symm
        simp only [fed, left, there, Option.map_some, Option.getD_some, same]
        exact p.given_prefix
  · have all : ended.pump = a.pump.map Pump.finish := (full (waits.trans waiting)).trans pump
    rw [fed, all, isWaiting, waiting, allGiven]
    cases a.pump with
    | none => rfl
    | some p => simp [p.closed_finish]
  · rw [none] at inputs
    rw [fed, Option.map_eq_none_iff.mp inputs, isWaiting]
    rfl

end Attached

end ComposeSite.Exec
