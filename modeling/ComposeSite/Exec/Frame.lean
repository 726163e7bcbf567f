/-
# ComposeSite.Exec.Frame -- the framed output of an exec

Output without a terminal comes in frames: a stream number, three octets that say
nothing, a length of four octets with the highest first, and that many octets.
Numbers zero and one go to standard output, two to standard error, and a frame of
number three is a message of the daemon that ends the stream.

A read gives what has arrived, cut anywhere.  `fillHeader` reads until a header is
complete and `copyPayload` copies what each read brings of a payload; what either
leaves of a read is there for the next one (`remaining`).
-/
import ComposeSite.Failure
import ComposeSite.Output.Sink

set_option autoImplicit false

namespace ComposeSite.Exec

open Output (Read Sink)

inductive StreamKind where
  | stdin
  | stdout
  | stderr
  | system
  deriving DecidableEq, Repr

def StreamKind.ofOctet? (b : UInt8) : Option StreamKind :=
  if b = 0 then some stdin
  else if b = 1 then some stdout
  else if b = 2 then some stderr
  else if b = 3 then some system
  else none

/-- The number of octets before a payload. -/
def headerLength : Nat := 8

/-- The number that octets spell, highest first. -/
def bigEndian (bs : Bytes) : Nat := bs.foldl (fun n b => 256 * n + b.toNat) 0

/-! ## Reading -/

/-- What a failing read makes of the stream. -/
def readFailure (text : String) : Failure := .io (.other text)

/-- What a sink that is full makes of the stream. -/
def sinkFailure : Failure := .io (.other Output.sinkFull)

/-- The reads that are left when some octets of the last one were not taken. -/
def remaining (data : Bytes) (rest : List Read) : List Read :=
  if data.isEmpty then rest else .chunk data :: rest

/-- The number of octets that reads can still bring. -/
def pending : List Read → Nat
  | [] => 0
  | .chunk data :: rest => data.length + pending rest
  | .failure _ :: rest => pending rest

/-- Reads until a header of which some octets are there is complete or the stream ends. -/
def fillHeader (got : Bytes) : List Read → Except Failure Bytes × List Read
  | [] => (.ok got, [])
  | .chunk [] :: rest => (.ok got, rest)
  | .failure text :: rest => (.error (readFailure text), rest)
  | .chunk (b :: bs) :: rest =>
      let missing := headerLength - got.length
      if (b :: bs).length < missing then fillHeader (got ++ b :: bs) rest
      else (.ok (got ++ (b :: bs).take missing), remaining ((b :: bs).drop missing) rest)

/-- What a complete header says: the kind of its frame and the length of the payload. -/
def parseHeader (header : Bytes) : Except Failure (StreamKind × Nat) :=
  match StreamKind.ofOctet? (header.headD 0) with
  | some kind => .ok (kind, bigEndian (header.drop 4))
  | none => .error (.frame (.unknownStream (header.headD 0).toNat))

/-- Reads a header. There is none where the stream ends between two frames. -/
def readHeader (reads : List Read) : Except Failure (Option (StreamKind × Nat)) × List Read :=
  match fillHeader [] reads with
  | (.error f, rest) => (.error f, rest)
  | (.ok header, rest) =>
      if header.length = headerLength then ((parseHeader header).map some, rest)
      else if header.isEmpty then (.ok none, rest)
      else (.error (.frame (.truncatedHeader header.length)), rest)

/-- Copies what reads bring of a payload of which `copied` octets have been copied and at
least one has not. -/
def copyRest (expected : Nat) (sink : Sink) (copied : Nat) :
    List Read → Sink × Except Failure Nat × List Read
  | [] => (sink, .error (.frame (.truncatedPayload expected copied)), [])
  | .chunk [] :: rest => (sink, .error (.frame (.truncatedPayload expected copied)), rest)
  | .failure text :: rest => (sink, .error (readFailure text), rest)
  | .chunk (b :: bs) :: rest =>
      let missing := expected - copied
      match sink.write ((b :: bs).take missing) with
      | (sink, false) =>
          (sink, .error sinkFailure, remaining ((b :: bs).drop missing) rest)
      | (sink, true) =>
          if (b :: bs).length < missing then
            copyRest expected sink (copied + (b :: bs).length) rest
          else (sink, .ok expected, remaining ((b :: bs).drop missing) rest)

/-- Copies a payload: the sink afterwards, the number of octets copied, and the reads left.
Nothing is read for a payload without octets. -/
def copyPayload (expected : Nat) (sink : Sink) (reads : List Read) :
    Sink × Except Failure Nat × List Read :=
  if expected = 0 then (sink, .ok 0, reads) else copyRest expected sink 0 reads

@[simp]
theorem pending_chunk (data : Bytes) (rest : List Read) :
    pending (.chunk data :: rest) = data.length + pending rest := rfl

@[simp]
theorem pending_remaining (data : Bytes) (rest : List Read) :
    pending (remaining data rest) = data.length + pending rest := by
  unfold remaining
  cases data <;> simp

/-- The octets of a header are those that its reads no longer bring. -/
theorem pending_fillHeader {got header : Bytes} {reads rest : List Read}
    (filled : fillHeader got reads = (.ok header, rest)) :
    header.length + pending rest = got.length + pending reads := by
  fun_induction fillHeader got reads with
  | case1 got => cases filled; rfl
  | case2 got rest => cases filled; simp
  | case3 got text rest => cases filled
  | case4 got b bs rest missing short ih =>
      have := ih filled
      simp only [List.length_append, pending_chunk] at this ⊢
      omega
  | case5 got b bs rest missing enough =>
      cases filled
      simp only [List.length_append, List.length_take, pending_remaining, List.length_drop,
        pending_chunk]
      omega

/-- A header takes octets away. -/
theorem pending_readHeader {reads rest : List Read} {kind : StreamKind} {length : Nat}
    (found : readHeader reads = (.ok (some (kind, length)), rest)) :
    pending rest < pending reads := by
  unfold readHeader at found
  split at found
  · cases found
  · rename_i header rest' filled
    have conserved := pending_fillHeader filled
    split at found
    · rename_i complete
      obtain ⟨-, rfl⟩ := Prod.mk.inj found
      simp only [List.length_nil, complete, headerLength] at conserved
      omega
    · split at found <;> cases found

/-- The octets of a payload are those that its reads no longer bring. -/
theorem pending_copyRest {expected copied n : Nat} {sink sink' : Sink} {reads rest : List Read}
    (copy : copyRest expected sink copied reads = (sink', .ok n, rest)) :
    pending rest ≤ pending reads := by
  fun_induction copyRest expected sink copied reads with
  | case1 sink copied => cases copy
  | case2 sink copied rest => cases copy
  | case3 sink copied text rest => cases copy
  | case4 sink copied b bs rest missing after full => cases copy
  | case5 sink copied b bs rest missing after written short ih =>
      have := ih copy
      simp only [pending_chunk]
      omega
  | case6 sink copied b bs rest missing after written enough =>
      cases copy
      simp only [pending_remaining, List.length_drop, pending_chunk]
      omega

theorem pending_copyPayload {expected n : Nat} {sink sink' : Sink} {reads rest : List Read}
    (copy : copyPayload expected sink reads = (sink', .ok n, rest)) :
    pending rest ≤ pending reads := by
  unfold copyPayload at copy
  split at copy
  · cases copy; exact Nat.le_refl _
  · exact pending_copyRest copy

/-! ## Splitting -/

/-- How many octets each sink was given. -/
structure Counts where
  stdout : Nat := 0
  stderr : Nat := 0
  deriving DecidableEq, Repr

/-- What comes of splitting a stream. -/
structure Split where
  stdout : Sink
  stderr : Sink
  result : Except Failure Counts

/-- A stream being split: what the sinks were given, and the reads left. -/
structure Copying where
  counts : Counts := {}
  stdout : Sink
  stderr : Sink
  reads : List Read

/-- What one turn of the loop comes to. -/
inductive Turn where
  | more (c : Copying)
  | done (s : Split)

namespace Copying

/-- The end of a stream with the sinks as they are. -/
def stop (c : Copying) (result : Except Failure Counts) : Turn :=
  .done ⟨c.stdout, c.stderr, result⟩

/-- Copies one frame, unless the stream ends before it. -/
def turn (c : Copying) : Turn :=
  match readHeader c.reads with
  | (.error f, _) => c.stop (.error f)
  | (.ok none, _) => c.stop (.ok c.counts)
  | (.ok (some (kind, length)), reads) =>
      match kind with
      | .stdin | .stdout =>
          match copyPayload length c.stdout reads with
          | (stdout, .error f, _) => { c with stdout }.stop (.error f)
          | (stdout, .ok n, reads) =>
              .more ⟨{ c.counts with stdout := c.counts.stdout + n }, stdout, c.stderr, reads⟩
      | .stderr =>
          match copyPayload length c.stderr reads with
          | (stderr, .error f, _) => { c with stderr }.stop (.error f)
          | (stderr, .ok n, reads) =>
              .more ⟨{ c.counts with stderr := c.counts.stderr + n }, c.stdout, stderr, reads⟩
      | .system =>
          match copyPayload length .unlimited reads with
          | (_, .error f, _) => c.stop (.error f)
          | (message, .ok _, _) => c.stop (.error (.daemon message.accepted))

/-- Every turn takes octets away. -/
theorem pending_turn {c next : Copying} (more : c.turn = .more next) :
    pending next.reads < pending c.reads := by
  unfold turn stop at more
  split at more
  · cases more
  · cases more
  · rename_i kind length reads found
    have header := pending_readHeader found
    split at more <;> split at more <;> cases more
    all_goals
      rename_i copied
      have payload := pending_copyPayload copied
      exact Nat.lt_of_le_of_lt payload header

/-- Copies frame after frame until the stream ends between two of them. -/
def run (c : Copying) : Split :=
  match _more : c.turn with
  | .done s => s
  | .more next => run next
  termination_by pending c.reads
  decreasing_by exact pending_turn _more

theorem run_done {c : Copying} {s : Split} (done : c.turn = .done s) : c.run = s := by
  rw [run]
  split <;> simp_all

theorem run_more {c next : Copying} (more : c.turn = .more next) : c.run = next.run := by
  rw [run]
  split <;> simp_all

end Copying

/-- Splits a stream into two sinks. -/
def demultiplex (stdout stderr : Sink) (reads : List Read) : Split :=
  Copying.run { stdout, stderr, reads }

end ComposeSite.Exec
