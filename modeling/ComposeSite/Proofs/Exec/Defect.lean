/-
# ComposeSite.Proofs.Exec.Defect -- the first defect of a broken stream

A stream that is not split to its end has a first defect: complete frames stand before it,
and what is left there is `Broken`.  The defect alone decides the failure.  The sinks have
the payloads of the frames before it and, when it is a payload that is cut off, what was
there of that payload; nothing behind the defect is looked at.

What comes of a stream depends on its octets and the failing read that ends it, not on how
the octets were cut into reads (`demultiplex_arrived`).
-/
import ComposeSite.Proofs.Exec.Cutting

set_option autoImplicit false

namespace ComposeSite.Exec

open Output

/-! ## What defects say -/

/-- The message of a defect. -/
def Defect.wording : Defect → String
  | lost text => s!"IO error: {text}"
  | shortHeader got => s!"Malformed exec stream: truncated header: got {got} of 8 bytes"
  | unknownStream number => s!"Malformed exec stream: unknown stream type {number}"
  | shortPayload expected got =>
      s!"Malformed exec stream: truncated frame: expected {expected} bytes, got {got}"
  | report message => s!"error from daemon in stream: {Text.Utf8.decodeLossy message}"

theorem Defect.failure_message (d : Defect) : d.failure.message = d.wording := by
  cases d <;> rfl

/-! ## Reads of one stream -/

/-- The reads of a stream: chunks and, if a read fails behind them, that read and whatever would
have been read after it. -/
def readsOf (chunks : List Bytes) : Option (String × List Read) → List Read
  | none => chunks.map .chunk
  | some (text, later) => chunks.map .chunk ++ .failure text :: later

section Reads

variable {chunks : List Bytes} (nonempty : ∀ c ∈ chunks, c ≠ [])
  (failing : Option (String × List Read))

include nonempty

theorem arrived_readsOf : arrived (readsOf chunks failing) = chunks.flatten := by
  cases failing with
  | none => exact arrived_chunks nonempty
  | some failed => rw [readsOf, arrived_chunks_append nonempty, arrived, List.append_nil]

theorem fault?_readsOf : fault? (readsOf chunks failing) = failing.map Prod.fst := by
  cases failing with
  | none => exact fault?_chunks chunks
  | some failed => rw [readsOf, fault?_chunks_append nonempty]; rfl

end Reads

/-! ## The first defect -/

/-- **The first defect alone decides.** When a stream is not split to its end, its octets are
complete frames and, behind them, octets that are broken; the failure is that defect, with its
message, and each sink has the payloads of the frames for it and what the defect leaves of a
payload. Wherever frames are followed by octets that are broken, that is what comes of the
stream, and it is the same for every cut of the octets into reads. -/
theorem demultiplex_first_defect (chunks : List Bytes) (nonempty : ∀ c ∈ chunks, c ≠ [])
    (failing : Option (String × List Read)) :
    let split := demultiplex .unlimited .unlimited (readsOf chunks failing)
    (∀ failure, split.result = .error failure →
      ∃ (frames : List Frame) (rest toOut toErr : Bytes) (defect : Defect),
        chunks.flatten = frames.flatMap Frame.encode ++ rest ∧
        Broken (failing.map Prod.fst) rest toOut toErr defect ∧
        failure = defect.failure ∧ failure.message = defect.wording ∧
        split.stdout.accepted = frames.flatMap Frame.toStdout ++ toOut ∧
        split.stderr.accepted = frames.flatMap Frame.toStderr ++ toErr) ∧
    (∀ (frames : List Frame) (rest toOut toErr : Bytes) (defect : Defect),
      chunks.flatten = frames.flatMap Frame.encode ++ rest →
      Broken (failing.map Prod.fst) rest toOut toErr defect →
      split = ⟨⟨none, frames.flatMap Frame.toStdout ++ toOut⟩,
        ⟨none, frames.flatMap Frame.toStderr ++ toErr⟩, .error defect.failure⟩) ∧
    (∀ (cut : List Bytes) (failing' : Option (String × List Read)), (∀ c ∈ cut, c ≠ []) →
      cut.flatten = chunks.flatten → failing'.map Prod.fst = failing.map Prod.fst →
      demultiplex .unlimited .unlimited (readsOf cut failing') = split) := by
  intro split
  have brought := arrived_readsOf nonempty failing
  have faults := fault?_readsOf nonempty failing
  have decided : ∀ (frames : List Frame) (rest toOut toErr : Bytes) (defect : Defect),
      chunks.flatten = frames.flatMap Frame.encode ++ rest →
      Broken (failing.map Prod.fst) rest toOut toErr defect →
      split = ⟨⟨none, frames.flatMap Frame.toStdout ++ toOut⟩,
        ⟨none, frames.flatMap Frame.toStderr ++ toErr⟩, .error defect.failure⟩ := by
    intro frames rest toOut toErr defect front broken
    exact Copying.run_broken frames (brought.trans front) (faults ▸ broken)
  refine ⟨fun failure failed => ?_, decided, fun cut failing' nonempty' same sameFault => ?_⟩
  · obtain ⟨frames, rest, front, ⟨rfl, ended⟩ | ⟨toOut, toErr, defect, broken⟩⟩ :=
      exists_frames (failing.map Prod.fst) chunks.flatten
    · -- Frames that are there in full are split without a failure.
      rw [List.append_nil] at front
      have whole : split = _ := Copying.run_encode frames (brought.trans front) (faults.trans ended)
      rw [whole] at failed
      cases failed
    · have split_eq := decided frames rest toOut toErr defect front broken
      rw [split_eq] at failed ⊢
      cases failed
      exact ⟨frames, rest, toOut, toErr, defect, front, broken, rfl, defect.failure_message,
        rfl, rfl⟩
  · refine demultiplex_arrived ?_ ?_
    · rw [arrived_readsOf nonempty', same, brought]
    · rw [fault?_readsOf nonempty', sameFault, faults]

/-- A read fails in the middle of a payload for standard error, behind a whole frame. -/
theorem demultiplex_first_defect_in_payload :
    let chunks : List Bytes := [[1, 0, 0, 0, 0, 0], [0, 2, 104, 105, 2, 9, 9],
      [9, 0, 0, 0, 5, 33]]
    (∀ c ∈ chunks, c ≠ []) ∧
      demultiplex .unlimited .unlimited
          (readsOf chunks (some ("connection reset", [.chunk [34, 35]]))) =
        ⟨⟨none, [104, 105]⟩, ⟨none, [33]⟩, .error (.io (.other "connection reset"))⟩ := by
  intro chunks
  have nonempty : ∀ c ∈ chunks, c ≠ [] := by decide
  have broken : Broken (some "connection reset") [2, 9, 9, 9, 0, 0, 0, 5, 33] [] [33]
      (.lost "connection reset") :=
    @Broken.inPayload _ 2 (by decide) (9, 9, 9) 5 (by decide) [33] (by decide)
  obtain ⟨-, decided, -⟩ :=
    demultiplex_first_defect chunks nonempty (some ("connection reset", [.chunk [34, 35]]))
  exact ⟨nonempty, decided [⟨1, (0, 0, 0), [104, 105], by decide, by decide⟩] _ _ _ _ rfl broken⟩

end ComposeSite.Exec
