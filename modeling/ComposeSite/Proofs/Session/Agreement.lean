/-
# ComposeSite.Proofs.Session.Agreement -- a command here and a command there

A local command is read line by line and a remote one message by message.  Both show the
octets as they are and track their last line, which depends on neither way of cutting
them; so where the octets are the same, so are what is shown and the result.
-/
import ComposeSite.Proofs.Output.Echo
import ComposeSite.Proofs.Session.Remote

set_option autoImplicit false

namespace ComposeSite.Session

open Output

/-- **The runners agree.** Some octets read from a local command, and the same octets shown
by a remote session that is closed after an exit status of zero, whatever input is sent on and
whatever else is said in between. -/
theorem runners_agree {octets : Bytes} {chunks : List Bytes} (nonempty : ∀ c ∈ chunks, c ≠ [])
    (read : chunks.flatten = octets) {t : Terminal}
    (enters : t.isTerminal = true → t.failsEnabling = false) (line : String)
    {allowance : Option Nat} {steps : List Step}
    (open_ : ∀ step ∈ steps, step ≠ .message .close) (shows : shownBy steps = octets)
    (takes : exceeds allowance (sentBy steps) = false) (succeeded : exitBy steps = some 0)
    (later : List Step) :
    ∃ echo state,
      Echo.run { sink := .unlimited } (chunks.map .chunk) = (echo, []) ∧
      (drive t line ({ sink := .unlimited, allowance := allowance },
        steps ++ .message .close :: later)).2 = ((state, later), .ok echo.last.finish) ∧
      echo.sink.accepted = octets ∧ state.sink.accepted = octets := by
  have calm : Calm none allowance steps := Calm.of_fits open_ rfl takes
  have closes : FirstStop none allowance (steps ++ .message .close :: later)
      (steps ++ [.message .close]) .close later := .step rfl calm rfl
  have echoed : Echo.run { sink := .unlimited } (chunks.map .chunk) =
      (Echo.after none octets [], []) := by
    rw [← read]
    exact Echo.run_chunks nonempty
  have whole : shownBy (steps ++ [.message .close]) = octets := by
    rw [shownBy_concat, shows]
    exact List.append_nil octets
  have status : exitBy (steps ++ [.message .close]) = some 0 := by
    rw [exitBy_concat, succeeded]
    rfl
  have result : verdict line (steps ++ [.message .close]) .close = .ok (lastLine octets) := by
    simp only [verdict, Cause.failure?, status, whole]
    rfl
  obtain ⟨state, driven, shown⟩ := drive_stopped enters line closes
  refine ⟨Echo.after none octets [], state, echoed, ?_, rfl, ?_⟩
  · rw [Echo.after_last_finish, ← result]
    exact driven
  · rw [shown, whole]
    rfl

/-- Both sides cut inside a character, in different places and with input sent on. -/
theorem runners_agree_inside_character :
    ∃ echo state,
      Echo.run { sink := .unlimited } [.chunk [104, 195], .chunk [169, 10]] = (echo, []) ∧
      (drive { isTerminal := true } "up" ({ sink := .unlimited, allowance := some 2 },
        [.message (.stdout [104, 195, 169]), .input (.octets [120]), .message (.exitStatus 0),
          .message .notice, .input .ended, .message (.stderr [10]), .message .close])).2 =
        ((state, []), .ok echo.last.finish) ∧
      echo.sink.accepted = [104, 195, 169, 10] ∧ state.sink.accepted = [104, 195, 169, 10] := by
  have nonempty : ∀ c ∈ ([[104, 195], [169, 10]] : List Bytes), c ≠ [] := by decide
  have open_ : ∀ step ∈ [Step.message (.stdout [104, 195, 169]), .input (.octets [120]),
      .message (.exitStatus 0), .message .notice, .input .ended, .message (.stderr [10])],
      step ≠ .message .close := by decide
  have enters : ({ isTerminal := true } : Terminal).isTerminal = true →
      ({ isTerminal := true } : Terminal).failsEnabling = false := fun _ => rfl
  exact runners_agree nonempty rfl enters "up" open_ rfl (by decide) rfl []

end ComposeSite.Session
