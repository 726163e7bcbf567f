/-
# ComposeSite.Proofs.Session.Local -- what is shown and what is found out

A command that runs on this machine is started as one program (`Child`) with its own words, and
what it puts out is what is shown (`RanHere`, `runHere_ran`).

The output of a local command is shown and tracked at once.  What is tracked is a function of
the output alone (`Echo.Agree.run`): a sink that accepts only part of it, or nothing, changes
what is shown and nothing else, neither how far the output is read nor what the command
comes to.
-/
import ComposeSite.Proofs.Output.Echo
import ComposeSite.Session.Local

set_option autoImplicit false

namespace ComposeSite.Session

open Output

/-! ## The child -/

/-- What a command is started with on this machine: its own words, in the project's directory,
with the variables and the input of the process. No word, and no name of a directory, may have
the character of number nought in it. -/
structure Child (w : World) (c : Context) (command : Shell.Command) (child : Script.Start) :
    Prop where
  program : child.program = command.program
  args : child.args = command.args
  files : enterDirectory w.files (c.directory? w.environment.home) = .ok child.files
  environment : child.environment = w.environment
  input : child.input = w.stdin
  sendable : ∀ word ∈ (c.directory? w.environment.home).toList ++ command.words,
    '\x00' ∉ word.toList

theorem Child.command_eq {w : World} {c : Context} {command : Shell.Command}
    {child : Script.Start} (is : Child w c command child) : child.command = command := by
  rw [Script.Start.command, is.program, is.args]

theorem childHere_eq (w : World) (c : Context) (command : Shell.Command) :
    childHere w c command =
      if ((c.directory? w.environment.home).toList ++ command.words).any
          fun word => word.toList.contains '\x00' then .error nulInWord
      else (enterDirectory w.files (c.directory? w.environment.home)).map
        fun files => ⟨command.program, command.args, files, w.environment, w.stdin⟩ := by
  simp only [childHere]
  split
  · rfl
  · cases enterDirectory w.files (c.directory? w.environment.home) <;> rfl

theorem childHere_eq_ok {w : World} {c : Context} {command : Shell.Command}
    {child : Script.Start} :
    childHere w c command = .ok child ↔ Child w c command child := by
  have sendable_iff : ((c.directory? w.environment.home).toList ++ command.words).any
      (fun word => word.toList.contains '\x00') = false ↔
        ∀ word ∈ (c.directory? w.environment.home).toList ++ command.words,
          '\x00' ∉ word.toList := by
    simp only [List.any_eq_false, List.contains_iff_mem]
  rw [childHere_eq]
  constructor
  · intro ready
    split at ready
    · cases ready
    · rename_i sends
      cases entered : enterDirectory w.files (c.directory? w.environment.home) with
      | error f =>
          rw [entered] at ready
          cases ready
      | ok files =>
          rw [entered] at ready
          cases ready
          exact ⟨rfl, rfl, entered, rfl, rfl, sendable_iff.mp (Bool.not_eq_true _ ▸ sends)⟩
  · rintro ⟨program, args, files, environment, input, sends⟩
    rw [sendable_iff.mpr sends, files, ← program, ← args, ← environment, ← input]
    rfl

/-- What a command that runs here leaves: nothing, if it has no child that can be started;
otherwise its child is started, once, and its output and its complaints are shown. -/
inductive RanHere (c : Context) (command : Shell.Command) (w : World) (t : Trace) :
    Trace → Prop where
  | unstarted (idle : ∀ child, Child w c command child → ∃ f, Script.start child = .error f) :
      RanHere c command w t t
  | started {child : Script.Start} {o : Script.Outcome} (is : Child w c command child)
      (starts : Script.start child = .ok o) :
      RanHere c command w t { t with
        started := t.started ++ [child]
        stdout := (Echo.run { sink := t.stdout } [.chunk o.stdout]).1.sink
        stderr := (t.stderr.write o.stderr).1 }

/-- A command that runs here is started once its child is ready, and heard once it has been
started. -/
theorem runHere_eq (c : Context) (command : Shell.Command) (w : World) (t : Trace) :
    runHere c command w t = match childHere w c command with
      | .error f => (.error (.command command.line (.notStarted f)), t)
      | .ok child => match Script.start child with
        | .error f => (.error (.command command.line (.notStarted f)), t)
        | .ok o => hear command.line o w { t with started := t.started ++ [child] } := by
  rw [runHere]
  cases ready : childHere w c command with
  | error f => exact Act.bind_error (by rw [Act.examine, ready]; rfl)
  | ok child =>
      have found : Act.examine (fun w => (childHere w c command).mapError
          fun f => .command command.line (.notStarted f)) w t = (.ok child, t) := by
        rw [Act.examine, ready]
        rfl
      rw [Act.bind_ok found]
      cases started : Script.start child with
      | error f =>
          have failed : launch child w t = (.ok (.error f), t) := by simp only [launch, started]
          rw [Act.bind_ok failed]
          simp only [started]
          rfl
      | ok o =>
          have launched : launch child w t =
              (.ok (.ok o), { t with started := t.started ++ [child] }) := by
            simp only [launch, started]
          rw [Act.bind_ok launched]
          simp only [started]

theorem runHere_ran (c : Context) (command : Shell.Command) (w : World) (t : Trace) :
    RanHere c command w t (runHere c command w t).2 := by
  rw [runHere_eq]
  cases ready : childHere w c command with
  | error f =>
      refine .unstarted fun child is => ?_
      rw [childHere_eq_ok.mpr is] at ready
      cases ready
  | ok child =>
      have is := childHere_eq_ok.mp ready
      simp only []
      cases starts : Script.start child with
      | error f =>
          refine .unstarted fun child' is' => ⟨f, ?_⟩
          obtain rfl : child = child' :=
            Except.ok.inj (ready.symm.trans (childHere_eq_ok.mpr is'))
          exact starts
      | ok o => exact .started is starts

/-! ## Its output -/

/-- A command that runs here with another sink for its output: only what is shown differs. -/
theorem runHere_any_sink (c : Context) (command : Shell.Command) (w : World) (t : Trace)
    (sink : Sink) :
    ∃ shown, runHere c command w { t with stdout := sink } =
      ((runHere c command w t).1, { (runHere c command w t).2 with stdout := shown }) := by
  rw [runHere_eq, runHere_eq]
  cases childHere w c command with
  | error f => exact ⟨sink, rfl⟩
  | ok child =>
      simp only []
      cases Script.start child with
      | error f => exact ⟨sink, rfl⟩
      | ok o =>
          have alike : Echo.Agree { sink := sink } { sink := t.stdout } := ⟨rfl, rfl⟩
          have tracked := (alike.run [.chunk o.stdout]).1.last
          refine ⟨(Echo.run { sink := sink } [.chunk o.stdout]).1.sink, ?_⟩
          simp only [hear, tracked]

/-- **A dead output disturbs nothing.** Output that arrives in chunks is shown as far as the sink
accepts it, octet for octet; all of it is read, and the tracked line is the last one of all
of it that is not blank, whatever the sink accepts and however the output is cut. So what a
command that runs here comes to, what it started and what it complained of do not depend on
where its output goes. -/
theorem dead_output_disturbs_nothing (chunks : List Bytes) (nonempty : ∀ c ∈ chunks, c ≠ [])
    (limit : Option Nat) :
    (∃ echo, Echo.run { sink := { limit := limit } } (chunks.map .chunk) = (echo, []) ∧
      echo.sink.accepted = allowed limit chunks.flatten ∧
      echo.last.finish = lastLine chunks.flatten) ∧
    ∀ (c : Context) (command : Shell.Command) (w : World) (t : Trace) (sink : Sink),
      ∃ shown, runHere c command w { t with stdout := sink } =
        ((runHere c command w t).1, { (runHere c command w t).2 with stdout := shown }) := by
  refine ⟨⟨Echo.after limit chunks.flatten [], Echo.run_chunks nonempty, rfl, ?_⟩,
    runHere_any_sink⟩
  exact Echo.after_last_finish chunks.flatten

/-- The sink dies inside a character of the second line, which has an octet that is no text. -/
theorem dead_output_inside_character :
    let chunks : List Bytes := [[111, 107, 10, 195], [169, 255], [33, 10, 32, 10]]
    (∀ c ∈ chunks, c ≠ []) ∧
      ∃ echo, Echo.run { sink := { limit := some 4 } } (chunks.map .chunk) = (echo, []) ∧
        echo.sink.accepted = [111, 107, 10, 195] ∧ echo.last.finish = "\u00e9\ufffd!" := by
  intro chunks
  have nonempty : ∀ c ∈ chunks, c ≠ [] := by decide
  obtain ⟨⟨echo, ran, shown, tracked⟩, -⟩ := dead_output_disturbs_nothing chunks nonempty (some 4)
  exact ⟨nonempty, echo, ran, shown, tracked.trans (by decide)⟩

end ComposeSite.Session
