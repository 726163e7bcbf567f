/-
# ComposeSite.Proofs.Exec.Cutting -- how a stream is cut does not matter

Reads are `Alike` if they bring the same octets and end in the same way.  Copying looks at
nothing else: a sink takes octets in pieces as it takes them at once, and fails at the same
octet (`Sink.write_append`), so what is copied of a payload (`copyPayload_written`) or of a
whole stream (`copy_written`) is one write of what is there of it.

From one turn (`Copying.turn_alike`) it follows for the run (`Copying.run_alike`) that reads that
are alike are split alike, whatever the sinks are (`demultiplex_arrived`).
-/
import ComposeSite.Exec.Attached
import ComposeSite.Proofs.Exec.Frame

set_option autoImplicit false

namespace ComposeSite

namespace Output

/-- Reads bring the same octets and end in the same way. -/
structure Alike (reads reads' : List Read) : Prop where
  octets : arrived reads = arrived reads'
  fault : fault? reads = fault? reads'

end Output

namespace Exec

open Output

/-! ## Payloads -/

theorem payloadEnd_alike {reads reads' : List Read} (alike : Alike reads reads')
    (expected copied : Nat) (sink : Sink) :
    payloadEnd expected copied sink reads = payloadEnd expected copied sink reads' := by
  rw [payloadEnd, payloadEnd, shortfall, shortfall, alike.octets, alike.fault]

theorem payloadEnd_ok {expected copied n : Nat} {sink : Sink} {reads : List Read}
    (ends : payloadEnd expected copied sink reads = .ok n) : n = expected := by
  rw [payloadEnd] at ends
  split at ends
  · split at ends
    · cases ends
    · cases ends
      rfl
  · cases ends

theorem copyPayload_alike {reads reads' : List Read} (alike : Alike reads reads') (expected : Nat)
    (sink : Sink) :
    ∃ sink' ended rest rest', copyPayload expected sink reads = (sink', ended, rest) ∧
      copyPayload expected sink reads' = (sink', ended, rest') ∧
      ∀ n, ended = .ok n → Alike rest rest' := by
  obtain ⟨rest, copied, tails⟩ := copyPayload_written expected sink reads
  obtain ⟨rest', copied', tails'⟩ := copyPayload_written expected sink reads'
  rw [← alike.octets, ← payloadEnd_alike alike] at copied' tails'
  refine ⟨_, _, rest, rest', copied, copied', fun n ok => ?_⟩
  obtain rfl := payloadEnd_ok ok
  obtain ⟨octets, fault⟩ := tails ok
  obtain ⟨octets', fault'⟩ := tails' ok
  exact ⟨octets.trans octets'.symm, fault.trans (alike.fault.trans fault'.symm)⟩

/-! ## Headers -/

theorem readHeader_alike {reads reads' : List Read} (alike : Alike reads reads') :
    ∃ found rest rest', readHeader reads = (found, rest) ∧ readHeader reads' = (found, rest') ∧
      ∀ header, found = .ok (some header) → Alike rest rest' := by
  by_cases scarce : (arrived reads).length < headerLength
  · have found := readHeader_scarce scarce
    have found' := readHeader_scarce (alike.octets ▸ scarce)
    rw [← alike.octets, ← alike.fault, ← found] at found'
    refine ⟨(readHeader reads).1, (readHeader reads).2, (readHeader reads').2, rfl,
      Prod.ext found' rfl, fun header headed => ?_⟩
    rw [found] at headed
    split at headed
    · cases headed
    · split at headed <;> cases headed
  · have front : arrived reads = (arrived reads).take headerLength ++
        (arrived reads).drop headerLength := (List.take_append_drop ..).symm
    have exact : ((arrived reads).take headerLength).length = headerLength :=
      List.length_take_of_le (Nat.not_lt.mp scarce)
    obtain ⟨rest, found, octets, fault⟩ := readHeader_whole front exact
    obtain ⟨rest', found', octets', fault'⟩ := readHeader_whole
      (alike.octets.symm.trans front) exact
    exact ⟨_, rest, rest', found, found', fun _ _ =>
      ⟨octets.trans octets'.symm, fault.trans (alike.fault.trans fault'.symm)⟩⟩

/-! ## Splitting -/

namespace Copying

/-- Streams that are being split alike: the same has been copied, and the reads left are alike. -/
structure Alike (c c' : Copying) : Prop where
  counts : c.counts = c'.counts
  stdout : c.stdout = c'.stdout
  stderr : c.stderr = c'.stderr
  reads : Output.Alike c.reads c'.reads

/-- A turn with streams that are alike comes to the same, or leaves streams that are alike. -/
theorem turn_alike {c c' : Copying} (alike : c.Alike c') :
    (∃ s, c.turn = .done s ∧ c'.turn = .done s) ∨
      ∃ next next', c.turn = .more next ∧ c'.turn = .more next' ∧ next.Alike next' := by
  obtain ⟨counts, stdout, stderr, reads⟩ := c
  obtain ⟨counts', stdout', stderr', reads'⟩ := c'
  obtain ⟨rfl, rfl, rfl, same⟩ := alike
  obtain ⟨found, rest, rest', header, header', behind⟩ := readHeader_alike same
  rcases found with f | _ | ⟨kind, length⟩
  · exact .inl ⟨_, by simp only [turn, header]; rfl, by simp only [turn, header']; rfl⟩
  · exact .inl ⟨_, by simp only [turn, header]; rfl, by simp only [turn, header']; rfl⟩
  · have payload := copyPayload_alike (behind _ rfl) length
    cases kind with
    | stdin | stdout =>
        obtain ⟨sink, ended, left, left', copied, copied', tails⟩ := payload stdout
        cases ended with
        | error f =>
            exact .inl ⟨_, by simp only [turn, header, copied]; rfl,
              by simp only [turn, header', copied']; rfl⟩
        | ok n =>
            let more := { counts with stdout := counts.stdout + n }
            exact .inr ⟨⟨more, sink, stderr, left⟩, ⟨more, sink, stderr, left'⟩,
              by simp only [turn, header, copied]; rfl,
              by simp only [turn, header', copied']; rfl, rfl, rfl, rfl, tails n rfl⟩
    | stderr =>
        obtain ⟨sink, ended, left, left', copied, copied', tails⟩ := payload stderr
        cases ended with
        | error f =>
            exact .inl ⟨_, by simp only [turn, header, copied]; rfl,
              by simp only [turn, header', copied']; rfl⟩
        | ok n =>
            let more := { counts with stderr := counts.stderr + n }
            exact .inr ⟨⟨more, stdout, sink, left⟩, ⟨more, stdout, sink, left'⟩,
              by simp only [turn, header, copied]; rfl,
              by simp only [turn, header', copied']; rfl, rfl, rfl, rfl, tails n rfl⟩
    | system =>
        obtain ⟨sink, ended, left, left', copied, copied', -⟩ := payload .unlimited
        cases ended with
        | error f =>
            exact .inl ⟨_, by simp only [turn, header, copied]; rfl,
              by simp only [turn, header', copied']; rfl⟩
        | ok n =>
            exact .inl ⟨_, by simp only [turn, header, copied]; rfl,
              by simp only [turn, header', copied']; rfl⟩

theorem run_alike {c c' : Copying} (alike : c.Alike c') : c.run = c'.run := by
  obtain ⟨s, done, done'⟩ | ⟨next, next', more, more', still⟩ := turn_alike alike
  · rw [run_done done, run_done done']
  · rw [run_more more, run_more more']
    exact run_alike still
  termination_by pending c.reads
  decreasing_by exact pending_turn more

end Copying

/-- What comes of a stream is a function of what its reads bring and of the failing read that
ends it. -/
theorem demultiplex_arrived {stdout stderr : Sink} {reads reads' : List Read}
    (octets : arrived reads = arrived reads') (faults : fault? reads = fault? reads') :
    demultiplex stdout stderr reads = demultiplex stdout stderr reads' :=
  Copying.run_alike ⟨rfl, rfl, rfl, octets, faults⟩

/-! ## Streams that break off -/

/-- Reading a header that is there or telling that none is left meets no failing read. -/
theorem readHeader_ok {reads rest : List Read} {found : Option (StreamKind × Nat)}
    (read : readHeader reads = (.ok found, rest)) :
    (found = none → fault? reads = none) ∧ (found ≠ none → fault? rest = fault? reads) := by
  by_cases scarce : (arrived reads).length < headerLength
  · have ended := readHeader_scarce scarce
    rw [read] at ended
    cases faults : fault? reads with
    | some text =>
        rw [faults] at ended
        cases ended
    | none =>
        refine ⟨fun _ => rfl, fun some => absurd ?_ some⟩
        simp only [faults] at ended
        split at ended
        · exact Except.ok.inj ended
        · cases ended
  · have front : arrived reads = (arrived reads).take headerLength ++
        (arrived reads).drop headerLength := (List.take_append_drop ..).symm
    obtain ⟨rest', whole, -, faults⟩ :=
      readHeader_whole front (List.length_take_of_le (Nat.not_lt.mp scarce))
    obtain ⟨parsed, rfl⟩ := Prod.mk.inj (read.symm.trans whole)
    refine ⟨fun none => ?_, fun _ => faults⟩
    subst none
    cases header : parseHeader ((arrived reads).take headerLength) <;> rw [header] at parsed <;>
      cases parsed

theorem copyPayload_ok {expected n : Nat} {sink sink' : Sink} {reads rest : List Read}
    (copied : copyPayload expected sink reads = (sink', .ok n, rest)) :
    fault? rest = fault? reads := by
  obtain ⟨rest', written, tails⟩ := copyPayload_written expected sink reads
  obtain ⟨-, behind⟩ := Prod.mk.inj (copied.symm.trans written)
  obtain ⟨ends, rfl⟩ := Prod.mk.inj behind
  obtain rfl := payloadEnd_ok ends.symm
  exact (tails ends.symm).2

/-- A turn passes the failing read on, and does not end without a failure in front of it. -/
theorem Copying.turn_fault (c : Copying) :
    match c.turn with
    | .done s => s.result.isOk = true → fault? c.reads = none
    | .more next => fault? next.reads = fault? c.reads := by
  rw [turn]
  rcases read : readHeader c.reads with ⟨f | _ | ⟨kind, length⟩, rest⟩
  · exact fun ok => by cases ok
  · exact fun _ => (readHeader_ok read).1 rfl
  · have behind := (readHeader_ok read).2 (by simp)
    cases kind with
    | stdin | stdout =>
        rcases copied : copyPayload length c.stdout rest with ⟨sink, f | n, left⟩
        · simp only [copied]
          exact fun ok => by cases ok
        · simp only [copied]
          exact (copyPayload_ok copied).trans behind
    | stderr =>
        rcases copied : copyPayload length c.stderr rest with ⟨sink, f | n, left⟩
        · simp only [copied]
          exact fun ok => by cases ok
        · simp only [copied]
          exact (copyPayload_ok copied).trans behind
    | system =>
        rcases copied : copyPayload length .unlimited rest with ⟨sink, f | n, left⟩
        · simp only [copied]
          exact fun ok => by cases ok
        · simp only [copied]
          exact fun ok => by cases ok

/-- A stream that is split without a failure has not broken off. -/
theorem Copying.fault?_of_run_ok (c : Copying) (ok : c.run.result.isOk = true) :
    fault? c.reads = none := by
  have passes := c.turn_fault
  rcases ended : c.turn with next | s
  · rw [ended] at passes
    rw [run_more ended] at ok
    exact passes ▸ fault?_of_run_ok next ok
  · rw [ended] at passes
    rw [run_done ended] at ok
    exact passes ok
  termination_by pending c.reads
  decreasing_by exact pending_turn ended

/-! ## Streams that are not split -/

/-- How copying a stream ends that breaks off with a failure to read, or does not. -/
def streamEnd : Option String → Except Failure Unit
  | none => .ok ()
  | some text => .error (readFailure text)

/-- Copying a stream is one write of what it brings. -/
theorem copy_written (sink : Sink) (reads : List Read) :
    copy sink reads = ((sink.write (arrived reads)).1,
      if sink.fits (arrived reads) then streamEnd (fault? reads) else .error sinkFailure) := by
  induction reads generalizing sink with
  | nil => simp [copy, arrived, fault?, streamEnd]
  | cons r later ih =>
      rcases r with (_ | ⟨b, bs⟩) | text
      · simp [copy, arrived, fault?, streamEnd]
      · have brings : arrived (.chunk (b :: bs) :: later) = b :: bs ++ arrived later := rfl
        have faults : fault? (.chunk (b :: bs) :: later) = fault? later := rfl
        have fit : sink.fits (b :: bs) = (sink.write (b :: bs)).2 := rfl
        rw [copy, brings, faults, Sink.write_append, Sink.fits_append, fit]
        rcases sink.write (b :: bs) with ⟨sink', _ | _⟩
        · rfl
        · exact ih sink'
      · simp [copy, arrived, fault?, streamEnd]

end Exec

end ComposeSite
