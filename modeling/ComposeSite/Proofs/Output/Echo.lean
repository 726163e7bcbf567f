/-
# ComposeSite.Proofs.Output.Echo -- what a child's output leaves behind

After every read, the state of an echo is a function of the octets read so far
(`Echo.reading`): their complete lines were shown and tracked, and the unfinished one is
held.  Once the sink has failed nothing more reaches it, which is what its limit allows
of everything shown; the tracked line does not depend on the sink.

So a stream read to its end shows what it brought and tracks the last line of all of it,
however it was cut into reads (`run_chunks`).  Where a read fails, the unfinished line is
dropped, and so is all that could still be read (`failing_read_drops_unfinished`).
-/
import ComposeSite.Output.Echo
import ComposeSite.Proofs.Output.LastLine
import ComposeSite.Proofs.Output.Stream

set_option autoImplicit false

namespace ComposeSite.Output

open Text

namespace Echo

/-- The state once some octets were shown and tracked, with others held. -/
def after (limit : Option Nat) (shown held : Bytes) : Echo where
  sink := .after limit shown
  echoing := !exceeds limit shown
  held := held
  last := ({} : LastLine).push shown

/-- The state after reads that brought some octets. -/
def reading (limit : Option Nat) (seen : Bytes) : Echo :=
  after limit ((complete LastLine.lineFeed seen).flatMap (· ++ [LastLine.lineFeed]))
    (unfinished LastLine.lineFeed seen)

variable {limit : Option Nat}

theorem emit_after (shown held line : Bytes) :
    (after limit shown held).emit line = after limit (shown ++ line) held := by
  have tracked : (({} : LastLine).push shown).push line = ({} : LastLine).push (shown ++ line) :=
    LastLine.push_push {} shown line
  cases beyond : exceeds limit shown with
  | false =>
      simp only [emit, after, beyond, Bool.not_false, if_true, Sink.write_after beyond, tracked]
  | true =>
      -- A sink that has failed is left alone, and its limit allows no more.
      have kept : Sink.after limit shown = Sink.after limit (shown ++ line) := by
        rw [Sink.after, Sink.after, allowed_append_of_exceeds beyond]
      simp only [emit, after, beyond, Bool.not_true, Bool.false_eq_true, if_false, tracked, kept,
        exceeds_append_of_exceeds beyond]

theorem foldl_emit (parts : List Bytes) (shown held : Bytes) :
    parts.foldl (fun e part => e.emit (part ++ [LastLine.lineFeed])) (after limit shown held) =
      after limit (shown ++ parts.flatMap (· ++ [LastLine.lineFeed])) held := by
  induction parts generalizing shown with
  | nil => simp
  | cons part parts ih =>
      rw [List.foldl_cons, emit_after, ih, List.flatMap_cons, List.append_assoc]

/-- A read takes the state to the one for everything read so far. -/
theorem take_reading (seen data : Bytes) :
    (reading limit seen).take data = reading limit (seen ++ data) := by
  have taken : (reading limit seen).take data =
      { (complete LastLine.lineFeed (unfinished LastLine.lineFeed seen ++ data)).foldl
          (fun e part => e.emit (part ++ [LastLine.lineFeed])) (reading limit seen) with
        held := unfinished LastLine.lineFeed (unfinished LastLine.lineFeed seen ++ data) } := rfl
  rw [taken, reading, foldl_emit, reading, complete_append _ seen data,
    unfinished_append _ seen data, List.flatMap_append]
  rfl

/-- At the end of the stream everything read has been shown and tracked. -/
theorem run_reading_nil (seen : Bytes) : run (reading limit seen) [] = (after limit seen [], []) := by
  have whole := flatMap_complete LastLine.lineFeed seen
  rw [run]
  split
  · rename_i none
    have empty : unfinished LastLine.lineFeed seen = [] := List.isEmpty_iff.mp none
    rw [empty, List.append_nil] at whole
    rw [reading, empty, whole]
  · have released : (reading limit seen).release =
        { (reading limit seen).emit (unfinished LastLine.lineFeed seen) with held := [] } := rfl
    rw [released, reading, emit_after, whole]
    rfl

/-- Reads that all bring something take the state to the one for everything they brought. -/
theorem run_reading {chunks : List Bytes} (nonempty : ∀ c ∈ chunks, c ≠ []) (seen : Bytes)
    (rest : List Read) :
    run (reading limit seen) (chunks.map .chunk ++ rest) =
      run (reading limit (seen ++ chunks.flatten)) rest := by
  induction chunks generalizing seen with
  | nil => simp
  | cons c chunks ih =>
      cases c with
      | nil => exact absurd rfl (nonempty [] (by simp))
      | cons b bs =>
          rw [List.map_cons, List.cons_append, run, take_reading,
            ih (fun c member => nonempty c (List.mem_cons_of_mem _ member)), List.flatten_cons,
            List.append_assoc]

/-- Nothing has been read at the start. -/
theorem start_reading : ({ sink := { limit := limit } } : Echo) = reading limit [] := by
  rw [← Sink.after_nil]
  cases limit <;> rfl

/-- **A stream read to its end.** -/
theorem run_chunks {chunks : List Bytes} (nonempty : ∀ c ∈ chunks, c ≠ []) :
    run { sink := { limit := limit } } (chunks.map .chunk) =
      (after limit chunks.flatten [], []) := by
  have read : run (reading limit []) (chunks.map .chunk ++ []) =
      run (reading limit ([] ++ chunks.flatten)) [] := run_reading nonempty [] []
  rw [List.append_nil, List.nil_append, run_reading_nil] at read
  rw [start_reading, read]

theorem after_last_finish (shown : Bytes) :
    (after limit shown []).last.finish = lastLine shown := LastLine.finish_push shown

/-! ## A failing read -/

/-- Reads that all bring something are dropped to the last one. -/
theorem drain_chunks {chunks : List Bytes} (nonempty : ∀ c ∈ chunks, c ≠ []) :
    drain (chunks.map .chunk) = [] := by
  induction chunks with
  | nil => rfl
  | cons c chunks ih =>
      cases c with
      | nil => exact absurd rfl (nonempty [] (by simp))
      | cons b bs => exact ih fun c member => nonempty c (List.mem_cons_of_mem _ member)

/-- What some octets consist of up to their last line feed. -/
def wholeLines (octets : Bytes) : Bytes :=
  (complete LastLine.lineFeed octets).flatMap (· ++ [LastLine.lineFeed])

theorem wholeLines_unfinished (octets : Bytes) :
    wholeLines octets ++ unfinished LastLine.lineFeed octets = octets :=
  flatMap_complete LastLine.lineFeed octets

/-- **A failing read drops the line that it breaks off.** Chunks are read, then a read fails, and
then more chunks are there. Everything is read to the end; shown is what the sink accepts of the
lines that were complete before the failure, and tracked is the last one of these that is not
blank. Behind them stood an unfinished line: a sink that accepts everything has been shown all
that was read exactly when there was none. -/
theorem failing_read_drops_unfinished {before later : List Bytes} (read : ∀ c ∈ before, c ≠ [])
    (unread : ∀ c ∈ later, c ≠ []) (text : String) (limit : Option Nat) :
    ∃ echo, run { sink := { limit := limit } }
        (before.map .chunk ++ .failure text :: later.map .chunk) = (echo, []) ∧
      echo.sink.accepted = allowed limit (wholeLines before.flatten) ∧
      echo.last.finish = lastLine (wholeLines before.flatten) ∧
      before.flatten =
        wholeLines before.flatten ++ unfinished LastLine.lineFeed before.flatten ∧
      (limit = none → (echo.sink.accepted = before.flatten ↔
        unfinished LastLine.lineFeed before.flatten = [])) := by
  have failed : run { sink := { limit := limit } }
      (before.map .chunk ++ .failure text :: later.map .chunk) =
        (after limit (wholeLines before.flatten) [], []) := by
    rw [start_reading, run_reading read, run, drain_chunks unread, List.nil_append]
    rfl
  have parts := wholeLines_unfinished before.flatten
  refine ⟨_, failed, rfl, after_last_finish _, parts.symm, ?_⟩
  rintro rfl
  show wholeLines before.flatten = before.flatten ↔ _
  constructor
  · intro whole
    rw [whole] at parts
    exact List.append_right_eq_self.mp parts
  · intro none
    rw [none, List.append_nil] at parts
    exact parts

/-- A read fails behind a complete line and half a character of the next. -/
theorem failing_read_inside_character :
    let before : List Bytes := [[111, 107], [10, 104, 195]]
    let later : List Bytes := [[169, 10], [33]]
    (∀ c ∈ before, c ≠ []) ∧ (∀ c ∈ later, c ≠ []) ∧
      ∃ echo, run { sink := .unlimited }
          (before.map .chunk ++ .failure "reset" :: later.map .chunk) = (echo, []) ∧
        echo.sink.accepted = [111, 107, 10] ∧ echo.last.finish = "ok" := by
  intro before later
  have read : ∀ c ∈ before, c ≠ [] := by decide
  have unread : ∀ c ∈ later, c ≠ [] := by decide
  obtain ⟨echo, ran, shown, tracked, -⟩ :=
    failing_read_drops_unfinished read unread "reset" none
  exact ⟨read, unread, echo, ran, shown, tracked.trans (by decide)⟩

/-- What is read before a failing read need not be shown: here a word without a line feed is not,
and nothing is tracked of it. -/
theorem failing_read_loses_octets :
    ¬ ∀ (before later : List Bytes) (text : String), (∀ c ∈ before, c ≠ []) →
      (∀ c ∈ later, c ≠ []) →
      ∃ echo, run { sink := .unlimited }
          (before.map .chunk ++ .failure text :: later.map .chunk) = (echo, []) ∧
        echo.sink.accepted = before.flatten ∧ echo.last.finish = lastLine before.flatten := by
  intro loses
  obtain ⟨echo, ran, shown, -⟩ := loses [[104, 105]] [] "boom" (by decide) (by decide)
  cases ran
  exact absurd shown (by decide)

/-! ## Whatever the sink -/

/-- Echoes that hold and track the same, whatever has become of their sinks. -/
structure Agree (e e' : Echo) : Prop where
  held : e.held = e'.held
  last : e.last = e'.last

namespace Agree

variable {e e' : Echo}

theorem emit (agree : Agree e e') (line : Bytes) : Agree (e.emit line) (e'.emit line) := by
  have tracked : ∀ e : Echo, (e.emit line).held = e.held ∧ (e.emit line).last = e.last.push line := by
    intro e
    rw [Echo.emit]
    split <;> exact ⟨rfl, rfl⟩
  refine ⟨?_, ?_⟩
  · rw [(tracked e).1, (tracked e').1, agree.held]
  · rw [(tracked e).2, (tracked e').2, agree.last]

theorem foldl_emit (agree : Agree e e') (parts : List Bytes) :
    Agree (parts.foldl (fun e part => e.emit (part ++ [LastLine.lineFeed])) e)
      (parts.foldl (fun e part => e.emit (part ++ [LastLine.lineFeed])) e') := by
  induction parts generalizing e e' with
  | nil => exact agree
  | cons part parts ih => exact ih (agree.emit _)

theorem take (agree : Agree e e') (data : Bytes) : Agree (e.take data) (e'.take data) := by
  simp only [Echo.take, agree.held]
  exact ⟨rfl, (agree.foldl_emit _).last⟩

theorem release (agree : Agree e e') : Agree e.release e'.release := by
  simp only [Echo.release, agree.held]
  exact ⟨rfl, (agree.emit _).last⟩

/-- What is tracked of a stream, and how far it is read, does not depend on the sink. -/
theorem run (agree : Agree e e') (reads : List Read) :
    Agree (Echo.run e reads).1 (Echo.run e' reads).1 ∧
      (Echo.run e reads).2 = (Echo.run e' reads).2 := by
  induction reads generalizing e e' with
  | nil =>
      rw [Echo.run, Echo.run, agree.held]
      split
      · exact ⟨agree, rfl⟩
      · exact ⟨agree.release, rfl⟩
  | cons read rest ih =>
      match read with
      | .chunk [] =>
          simp only [Echo.run, agree.held]
          split
          · exact ⟨agree, rfl⟩
          · exact ih agree.release
      | .chunk (b :: bs) => exact ih (agree.take (b :: bs))
      | .failure text => exact ⟨⟨rfl, agree.last⟩, rfl⟩

end Agree

end Echo

end ComposeSite.Output
