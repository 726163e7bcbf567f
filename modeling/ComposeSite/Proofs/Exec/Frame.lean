/-
# ComposeSite.Proofs.Exec.Frame -- splitting is the inverse of framing

A `Frame` of output has a stream number up to two, three octets that say nothing, and
a payload whose length four octets can hold; `Frame.encode` writes it.  Splitting
looks at reads only through the octets that they bring (`Output.arrived`) and the
failure that ends them (`Output.fault?`):

* `copyPayload_written`: copying a payload is one write of what is there of it, to any sink;
* `readHeader_whole`, `copyPayload_whole`: a header or a payload that is there is read
  as a whole, and the reads left bring what follows it;
* `readHeader_scarce`, `copyPayload_scarce`: one that is not there in full fails, unless
  nothing at all is left to read;
* `exists_frames`: any octets are frames and then end, or are frames up to where they are
  `Broken`;
* `Copying.turn_encode`, `Copying.turn_ended`, `Copying.turn_broken`: what a turn of the loop
  does with a frame, at the end, and with a defect.

`Copying.run_encode` and `Copying.run_broken` follow by induction on the frames, and
`demultiplex_chunks` from them.
-/
import ComposeSite.Exec.Frame
import ComposeSite.Proofs.Output.Stream
import ComposeSite.Ssh.Wire

set_option autoImplicit false

namespace ComposeSite.Exec

open Output

/-! ## One header or payload -/

@[simp]
theorem arrived_remaining (data : Bytes) (rest : List Read) :
    arrived (remaining data rest) = data ++ arrived rest := by
  cases data <;> rfl

@[simp]
theorem fault?_remaining (data : Bytes) (rest : List Read) :
    fault? (remaining data rest) = fault? rest := by
  cases data <;> rfl

/-- What is left of a read and the reads after it, when a first part of what they bring is as
long as the part of the read that was taken. -/
theorem arrived_split {data taken tail : Bytes} {rest : List Read}
    (front : data ++ arrived rest = taken ++ tail) (enough : taken.length ≤ data.length) :
    data.take taken.length = taken ∧
      arrived (remaining (data.drop taken.length) rest) = tail := by
  have first := congrArg (List.take taken.length) front
  have second := congrArg (List.drop taken.length) front
  rw [List.take_append_of_le_length enough, List.take_left] at first
  rw [List.drop_append_of_le_length enough, List.drop_left] at second
  exact ⟨first, by rw [arrived_remaining, second]⟩

/-- A read that brings less than a first part of a stream brings the start of it. -/
theorem arrived_short {data whole tail : Bytes} {rest : List Read}
    (front : data ++ arrived rest = whole ++ tail) (short : data.length < whole.length) :
    ∃ later, whole = data ++ later ∧ arrived rest = later ++ tail ∧ later ≠ [] := by
  obtain ⟨later, same, there⟩ | ⟨later, same, -⟩ := List.append_eq_append_iff.mp front
  · refine ⟨later, same, there, ?_⟩
    rintro rfl
    rw [same, List.append_nil] at short
    exact Nat.lt_irrefl _ short
  · rw [same, List.length_append] at short
    omega

theorem fillHeader_whole {got lacking tail : Bytes} {reads : List Read}
    (front : arrived reads = lacking ++ tail)
    (exact : got.length + lacking.length = headerLength) (more : lacking ≠ []) :
    ∃ rest, fillHeader got reads = (.ok (got ++ lacking), rest) ∧
      arrived rest = tail ∧ fault? rest = fault? reads := by
  induction reads generalizing got lacking with
  | nil => exact absurd (List.append_eq_nil_iff.mp front.symm).1 more
  | cons r later ih =>
      match r with
      | .chunk [] | .failure _ => exact absurd (List.append_eq_nil_iff.mp front.symm).1 more
      | .chunk (b :: bs) =>
          have missing : headerLength - got.length = lacking.length := by omega
          simp only [fillHeader, missing]
          split
          · rename_i short
            obtain ⟨next, rfl, there, unfinished⟩ := arrived_short front short
            have total : (got ++ b :: bs).length + next.length = headerLength := by
              rw [← exact, List.length_append, List.length_append, Nat.add_assoc]
            obtain ⟨rest, filled, tails, faults⟩ := ih there total unfinished
            exact ⟨rest, by rw [filled, List.append_assoc], tails, faults⟩
          · rename_i enough
            obtain ⟨first, second⟩ := arrived_split front (Nat.not_lt.mp enough)
            exact ⟨_, by rw [first], second, by rw [fault?_remaining]; rfl⟩

/-- A header that is there is read, and its octets alone are taken. -/
theorem readHeader_whole {header tail : Bytes} {reads : List Read}
    (front : arrived reads = header ++ tail) (exact : header.length = headerLength) :
    ∃ rest, readHeader reads = ((parseHeader header).map some, rest) ∧
      arrived rest = tail ∧ fault? rest = fault? reads := by
  have more : header ≠ [] := by
    rintro rfl
    cases exact
  obtain ⟨rest, filled, tails, faults⟩ :=
    fillHeader_whole front (by rw [exact]; rfl : ([] : Bytes).length + header.length = _) more
  refine ⟨rest, ?_, tails, faults⟩
  simp [readHeader, filled, exact]

theorem fillHeader_scarce (got : Bytes) {reads : List Read}
    (scarce : got.length + (arrived reads).length < headerLength) :
    (fillHeader got reads).1 = match fault? reads with
      | some text => .error (readFailure text)
      | none => .ok (got ++ arrived reads) := by
  induction reads generalizing got with
  | nil => simp [fillHeader, arrived, fault?]
  | cons r later ih =>
      rcases r with (_ | ⟨b, bs⟩) | text
      · simp [fillHeader, arrived, fault?]
      · rw [arrived_chunk (by simp), List.length_append] at scarce
        have short : (b :: bs).length < headerLength - got.length := by omega
        simp only [fillHeader, if_pos short, fault?]
        rw [ih (got ++ b :: bs) (by rw [List.length_append]; omega), arrived_chunk (by simp),
          List.append_assoc]
      · simp [fillHeader, fault?]

/-- Where fewer octets than a header are left, reading one ends the stream, or fails. -/
theorem readHeader_scarce {reads : List Read} (scarce : (arrived reads).length < headerLength) :
    (readHeader reads).1 = match fault? reads with
      | some text => .error (readFailure text)
      | none =>
          if arrived reads = [] then .ok none
          else .error (.frame (.truncatedHeader (arrived reads).length)) := by
  have filled := fillHeader_scarce [] (by simpa using scarce : 0 + _ < _)
  rcases result : fillHeader [] reads with ⟨header, rest⟩
  rw [result] at filled
  simp only [readHeader, result]
  cases ended : fault? reads with
  | some text =>
      rw [ended] at filled
      subst filled
      rfl
  | none =>
      rw [ended] at filled
      subst filled
      simp only [List.nil_append, if_neg (Nat.ne_of_lt scarce)]
      cases arrived reads <;> simp

/-- What a payload that is not there in full makes of the stream. -/
def shortfall (expected copied : Nat) (reads : List Read) : Failure :=
  match fault? reads with
  | some text => readFailure text
  | none => .frame (.truncatedPayload expected (copied + (arrived reads).length))

/-- How copying a payload ends of which some octets have been copied. -/
def payloadEnd (expected copied : Nat) (sink : Sink) (reads : List Read) : Except Failure Nat :=
  if sink.fits ((arrived reads).take (expected - copied)) then
    if (arrived reads).length < expected - copied then .error (shortfall expected copied reads)
    else .ok expected
  else .error sinkFailure

theorem payloadEnd_nothing {expected copied : Nat} {reads : List Read} (sink : Sink)
    (nothing : arrived reads = []) (lacking : copied < expected) :
    payloadEnd expected copied sink reads = .error (shortfall expected copied reads) := by
  rw [payloadEnd, nothing, List.take_nil, Sink.fits_nil, if_pos rfl, if_pos]
  exact Nat.sub_pos_of_lt lacking

/-- A read that brings a part of a payload leaves the rest of it to the reads after it. -/
theorem payloadEnd_chunk {expected copied : Nat} (sink : Sink) {b : UInt8} {bs : Bytes}
    (later : List Read) (short : (b :: bs).length < expected - copied) :
    payloadEnd expected copied sink (.chunk (b :: bs) :: later) =
      if sink.fits (b :: bs) then
        payloadEnd expected (copied + (b :: bs).length) (sink.write (b :: bs)).1 later
      else .error sinkFailure := by
  have brings : arrived (.chunk (b :: bs) :: later) = b :: bs ++ arrived later := rfl
  have left : expected - copied - (b :: bs).length = expected - (copied + (b :: bs).length) := by
    omega
  have ends : (b :: bs ++ arrived later).length < expected - copied ↔
      (arrived later).length < expected - (copied + (b :: bs).length) := by
    rw [List.length_append]
    omega
  have lost : shortfall expected copied (.chunk (b :: bs) :: later) =
      shortfall expected (copied + (b :: bs).length) later := by
    simp only [shortfall, fault?, brings, List.length_append, Nat.add_assoc]
  rw [payloadEnd, payloadEnd, brings, List.take_append,
    List.take_of_length_le (Nat.le_of_lt short), left, Sink.fits_append, lost]
  simp only [ends]
  cases sink.fits (b :: bs) <;> rfl

/-- Copying what is left of a payload is one write of what is there of it; if that is all of it,
the reads left bring what follows it. -/
theorem copyRest_written {expected copied : Nat} (sink : Sink) (reads : List Read)
    (lacking : copied < expected) :
    ∃ rest, copyRest expected sink copied reads =
        ((sink.write ((arrived reads).take (expected - copied))).1,
          payloadEnd expected copied sink reads, rest) ∧
      (payloadEnd expected copied sink reads = .ok expected →
        arrived rest = (arrived reads).drop (expected - copied) ∧ fault? rest = fault? reads) := by
  induction reads generalizing sink copied with
  | nil =>
      rw [payloadEnd_nothing sink rfl lacking]
      exact ⟨[], by simp [copyRest, arrived, shortfall, fault?], fun ok => by cases ok⟩
  | cons r later ih =>
      rcases r with (_ | ⟨b, bs⟩) | text
      · rw [payloadEnd_nothing sink rfl lacking]
        exact ⟨later, by simp [copyRest, arrived, shortfall, fault?], fun ok => by cases ok⟩
      · have brings : arrived (.chunk (b :: bs) :: later) = b :: bs ++ arrived later := rfl
        have faults : fault? (.chunk (b :: bs) :: later) = fault? later := rfl
        by_cases short : (b :: bs).length < expected - copied
        · -- the read is copied as a whole, and the rest of the payload is left to the others
          have left : expected - copied - (b :: bs).length =
              expected - (copied + (b :: bs).length) := by omega
          have first := sink.write_append (b :: bs)
            ((arrived later).take (expected - (copied + (b :: bs).length)))
          rw [payloadEnd_chunk sink later short, faults, copyRest, brings, List.take_append,
            List.drop_append, List.take_of_length_le (Nat.le_of_lt short),
            List.drop_of_length_le (Nat.le_of_lt short), left, first]
          have fit : sink.fits (b :: bs) = (sink.write (b :: bs)).2 := rfl
          rw [fit]
          rcases written : sink.write (b :: bs) with ⟨sink', _ | _⟩
          · exact ⟨_, rfl, fun ok => by cases ok⟩
          · have still : copied + (b :: bs).length < expected := by omega
            obtain ⟨rest, copied, tails⟩ := ih sink' still
            simp only [if_pos short]
            exact ⟨rest, copied, tails⟩
        · have enough : expected - copied ≤ (b :: bs).length := Nat.not_lt.mp short
          have there : ¬ (b :: bs ++ arrived later).length < expected - copied := by
            rw [List.length_append]
            omega
          have fit : sink.fits ((b :: bs).take (expected - copied)) =
              (sink.write ((b :: bs).take (expected - copied))).2 := rfl
          rw [payloadEnd, faults, copyRest, brings, List.take_append_of_le_length enough,
            List.drop_append_of_le_length enough, if_neg there, fit]
          rcases written : sink.write ((b :: bs).take (expected - copied)) with ⟨sink', _ | _⟩
          · exact ⟨_, rfl, fun ok => by cases ok⟩
          · simp only [if_neg short]
            exact ⟨_, rfl, fun _ => ⟨arrived_remaining _ _, fault?_remaining _ _⟩⟩
      · rw [payloadEnd_nothing sink rfl lacking]
        exact ⟨later, by simp [copyRest, arrived, shortfall, fault?], fun ok => by cases ok⟩

/-- Copying a payload is one write of what is there of it; if that is all of it, the reads left
bring what follows it. -/
theorem copyPayload_written (expected : Nat) (sink : Sink) (reads : List Read) :
    ∃ rest, copyPayload expected sink reads =
        ((sink.write ((arrived reads).take expected)).1, payloadEnd expected 0 sink reads, rest) ∧
      (payloadEnd expected 0 sink reads = .ok expected →
        arrived rest = (arrived reads).drop expected ∧ fault? rest = fault? reads) := by
  rw [copyPayload]
  by_cases nothing : expected = 0
  · subst nothing
    have ends : payloadEnd 0 0 sink reads = .ok 0 := by simp [payloadEnd]
    rw [if_pos rfl, ends, List.take_zero, Sink.write_nil]
    exact ⟨reads, rfl, fun _ => ⟨rfl, rfl⟩⟩
  · rw [if_neg nothing]
    exact copyRest_written sink reads (Nat.pos_of_ne_zero nothing)

/-- Copying a payload to a sink that was given octets within its limit. -/
theorem copyPayload_after {limit : Option Nat} {before : Bytes}
    (fits : exceeds limit before = false) (length : Nat) (reads : List Read) :
    let given := before ++ (arrived reads).take length
    ∃ rest, copyPayload length (.after limit before) reads =
        (.after limit given,
          if exceeds limit given then .error sinkFailure
          else if (arrived reads).length < length then .error (shortfall length 0 reads)
          else .ok length, rest) ∧
      (exceeds limit given = false → length ≤ (arrived reads).length →
        arrived rest = (arrived reads).drop length ∧ fault? rest = fault? reads) := by
  intro given
  obtain ⟨rest, copied, tails⟩ := copyPayload_written length (.after limit before) reads
  have wrote := Sink.write_after fits ((arrived reads).take length)
  have ends : payloadEnd length 0 (.after limit before) reads =
      if exceeds limit given then .error sinkFailure
      else if (arrived reads).length < length then .error (shortfall length 0 reads)
      else .ok length := by
    have taken : (Sink.after limit before).fits ((arrived reads).take length) =
        !exceeds limit given := congrArg Prod.snd wrote
    rw [payloadEnd, Nat.sub_zero, taken]
    cases exceeds limit given <;> rfl
  rw [wrote, ends] at copied
  refine ⟨rest, copied, fun within enough => tails ?_⟩
  rw [ends, within, if_neg Bool.false_ne_true, if_neg (Nat.not_lt.mpr enough)]

/-- Copying a payload that is there in full gives all of it to the sink, and its octets alone
are taken. -/
theorem copyPayload_whole (limit : Option Nat) (before : Bytes) {payload tail : Bytes}
    {reads : List Read} (front : arrived reads = payload ++ tail)
    (fits : exceeds limit (before ++ payload) = false) :
    ∃ rest, copyPayload payload.length (.after limit before) reads =
        (.after limit (before ++ payload), .ok payload.length, rest) ∧
      arrived rest = tail ∧ fault? rest = fault? reads := by
  obtain ⟨rest, copied, tails⟩ :=
    copyPayload_after (exceeds_append_left fits) payload.length reads
  have enough : payload.length ≤ (arrived reads).length := by
    rw [front, List.length_append]
    exact Nat.le_add_right ..
  have first : (arrived reads).take payload.length = payload := by rw [front, List.take_left]
  have second : (arrived reads).drop payload.length = tail := by rw [front, List.drop_left]
  rw [first, fits, if_neg Bool.false_ne_true, if_neg (Nat.not_lt.mpr enough)] at copied
  rw [first, second] at tails
  exact ⟨rest, copied, tails fits enough⟩

/-- Copying a payload of which less is there than its header says fails with what is there
copied. -/
theorem copyPayload_scarce (before : Bytes) {expected : Nat} {reads : List Read}
    (scarce : (arrived reads).length < expected) :
    ∃ rest, copyPayload expected ⟨none, before⟩ reads =
      (⟨none, before ++ arrived reads⟩, .error (shortfall expected 0 reads), rest) := by
  have fits (data : Bytes) : exceeds none data = false := rfl
  obtain ⟨rest, copied, -⟩ := copyPayload_after (fits before) expected reads
  rw [List.take_of_length_le (Nat.le_of_lt scarce), fits, if_neg Bool.false_ne_true,
    if_pos scarce] at copied
  exact ⟨rest, copied⟩

/-! ## Frames of output -/

/-- A frame of output. -/
structure Frame where
  stream : UInt8
  reserved : UInt8 × UInt8 × UInt8
  payload : Bytes
  stream_le : stream ≤ 2
  length_lt : payload.length < 0x100000000
  deriving DecidableEq

namespace Frame

/-- The octets before the payload. -/
def header (f : Frame) : Bytes :=
  f.stream :: f.reserved.1 :: f.reserved.2.1 :: f.reserved.2.2 ::
    Ssh.Wire.uint32 f.payload.length

/-- The written form of a frame. -/
def encode (f : Frame) : Bytes := f.header ++ f.payload

/-- What a frame brings to standard output. -/
def toStdout (f : Frame) : Bytes := if f.stream = 0 ∨ f.stream = 1 then f.payload else []

/-- What a frame brings to standard error. -/
def toStderr (f : Frame) : Bytes := if f.stream = 2 then f.payload else []

theorem header_length (f : Frame) : f.header.length = headerLength := rfl

theorem stream_cases (f : Frame) : f.stream = 0 ∨ f.stream = 1 ∨ f.stream = 2 := by
  have bound := UInt8.le_iff_toNat_le.mp f.stream_le
  simp only [← UInt8.toNat_inj]
  change f.stream.toNat ≤ 2 at bound
  change f.stream.toNat = 0 ∨ f.stream.toNat = 1 ∨ f.stream.toNat = 2
  omega

end Frame

theorem bigEndian_uint32 {n : Nat} (bound : n < 0x100000000) : bigEndian (Ssh.Wire.uint32 n) = n := by
  simp only [bigEndian, Ssh.Wire.uint32, List.foldl_cons, List.foldl_nil, UInt8.toNat_ofNat']
  omega

theorem uint32_bigEndian (a b c d : UInt8) :
    Ssh.Wire.uint32 (bigEndian [a, b, c, d]) = [a, b, c, d] := by
  have ha := a.toNat_lt
  have hb := b.toNat_lt
  have hc := c.toNat_lt
  have hd := d.toNat_lt
  simp only [bigEndian, Ssh.Wire.uint32, List.foldl_cons, List.foldl_nil, List.cons.injEq,
    ← UInt8.toNat_inj, UInt8.toNat_ofNat', and_true]
  omega

theorem bigEndian_lt (a b c d : UInt8) : bigEndian [a, b, c, d] < 0x100000000 := by
  have ha := a.toNat_lt
  have hb := b.toNat_lt
  have hc := c.toNat_lt
  have hd := d.toNat_lt
  simp only [bigEndian, List.foldl_cons, List.foldl_nil]
  omega

/-! ## Broken streams -/

/-- The octets before a payload, with any stream number. -/
def headerOf (stream : UInt8) (reserved : UInt8 × UInt8 × UInt8) (length : Nat) : Bytes :=
  stream :: reserved.1 :: reserved.2.1 :: reserved.2.2 :: Ssh.Wire.uint32 length

/-- What octets of a payload bring to standard output. -/
def stdoutOf (stream : UInt8) (data : Bytes) : Bytes :=
  if stream = 0 ∨ stream = 1 then data else []

/-- What octets of a payload bring to standard error. -/
def stderrOf (stream : UInt8) (data : Bytes) : Bytes := if stream = 2 then data else []

/-- What is wrong with a stream where it first goes wrong: a read fails, a header or a payload
is not there in full, a stream number means nothing, or the daemon reports a failure. -/
inductive Defect where
  | lost (text : String)
  | shortHeader (got : Nat)
  | unknownStream (number : Nat)
  | shortPayload (expected got : Nat)
  | report (message : Bytes)
  deriving DecidableEq, Repr

namespace Defect

/-- The failure that a defect is. -/
def failure : Defect → Failure
  | lost text => .io (.other text)
  | shortHeader got => .frame (.truncatedHeader got)
  | unknownStream number => .frame (.unknownStream number)
  | shortPayload expected got => .frame (.truncatedPayload expected got)
  | report message => .daemon message

/-- A defect of a stream that ends too early: when a failing read ends it, that is the defect. -/
def orLost (d : Defect) : Option String → Defect
  | some text => .lost text
  | none => d

end Defect

/-- What is left of a stream where it goes wrong, what of that still goes to standard output and to
standard error, and what is wrong. The stream ends with a failing read if there is a fault. -/
inductive Broken (fault : Option String) : Bytes → Bytes → Bytes → Defect → Prop
  /-- It ends inside a header, or a read fails before one. -/
  | inHeader {rest : Bytes} (short : rest.length < headerLength)
      (missing : rest ≠ [] ∨ fault ≠ none) :
      Broken fault rest [] [] ((Defect.shortHeader rest.length).orLost fault)
  /-- A header is there in full, and its stream number means nothing. -/
  | unknown {stream : UInt8} (high : 3 < stream) (reserved : UInt8 × UInt8 × UInt8)
      {length : Nat} (bound : length < 0x100000000) (more : Bytes) :
      Broken fault (headerOf stream reserved length ++ more) [] []
        (.unknownStream stream.toNat)
  /-- It ends inside a payload, of which the octets that are there still go where they belong. -/
  | inPayload {stream : UInt8} (known : stream ≤ 3) (reserved : UInt8 × UInt8 × UInt8)
      {length : Nat} (bound : length < 0x100000000) {part : Bytes}
      (short : part.length < length) :
      Broken fault (headerOf stream reserved length ++ part) (stdoutOf stream part)
        (stderrOf stream part) ((Defect.shortPayload length part.length).orLost fault)
  /-- A message of the daemon is there in full. -/
  | report (reserved : UInt8 × UInt8 × UInt8) {message : Bytes}
      (bound : message.length < 0x100000000) (more : Bytes) :
      Broken fault (headerOf 3 reserved message.length ++ (message ++ more)) [] []
        (.report message)

theorem headerOf_length (stream : UInt8) (reserved : UInt8 × UInt8 × UInt8) (length : Nat) :
    (headerOf stream reserved length).length = headerLength := rfl

/-- Any octets as long as a header are one. -/
theorem exists_headerOf {header : Bytes} (exact : header.length = headerLength) :
    ∃ stream reserved length, length < 0x100000000 ∧ header = headerOf stream reserved length := by
  match header, exact with
  | [s, r₁, r₂, r₃, a, b, c, d], _ =>
      refine ⟨s, (r₁, r₂, r₃), bigEndian [a, b, c, d], bigEndian_lt a b c d, ?_⟩
      rw [headerOf, uint32_bigEndian]

/-- Octets of which there are enough start with a header. -/
theorem exists_headerOf_append {octets : Bytes} (enough : headerLength ≤ octets.length) :
    ∃ stream reserved length rest, length < 0x100000000 ∧
      octets = headerOf stream reserved length ++ rest := by
  have exact : (octets.take headerLength).length = headerLength := List.length_take_of_le enough
  obtain ⟨stream, reserved, length, bound, written⟩ := exists_headerOf exact
  exact ⟨stream, reserved, length, octets.drop headerLength, bound,
    by rw [← written, List.take_append_drop]⟩

theorem parse_headerOf (stream : UInt8) (reserved : UInt8 × UInt8 × UInt8) {length : Nat}
    (bound : length < 0x100000000) :
    parseHeader (headerOf stream reserved length) =
      match StreamKind.ofOctet? stream with
      | some kind => .ok (kind, length)
      | none => .error (.frame (.unknownStream stream.toNat)) := by
  have spelled : bigEndian ((headerOf stream reserved length).drop 4) = length :=
    bigEndian_uint32 bound
  simp only [parseHeader, spelled]
  rfl

theorem ofOctet?_high {stream : UInt8} (high : 3 < stream) :
    StreamKind.ofOctet? stream = none := by
  unfold StreamKind.ofOctet?
  grind

theorem stream_known {stream : UInt8} (known : stream ≤ 3) :
    (stream = 0 ∨ stream = 1) ∨ stream = 2 ∨ stream = 3 := by
  grind

/-- A stream has ended between two frames, or it goes wrong, or there is a frame at its front. -/
theorem broken_or_frame (fault : Option String) (octets : Bytes) :
    (octets = [] ∧ fault = none) ∨
      (∃ toOut toErr defect, Broken fault octets toOut toErr defect) ∨
      ∃ (f : Frame) (tail : Bytes), octets = f.encode ++ tail := by
  by_cases short : octets.length < headerLength
  · by_cases missing : octets ≠ [] ∨ fault ≠ none
    · exact .inr (.inl ⟨_, _, _, .inHeader short missing⟩)
    · exact .inl (by simpa using missing)
  obtain ⟨stream, reserved, length, rest, bound, rfl⟩ :=
    exists_headerOf_append (Nat.not_lt.mp short)
  by_cases high : 3 < stream
  · exact .inr (.inl ⟨_, _, _, .unknown high reserved bound rest⟩)
  have known : stream ≤ 3 := UInt8.not_lt.mp high
  by_cases cut : rest.length < length
  · exact .inr (.inl ⟨_, _, _, .inPayload known reserved bound cut⟩)
  obtain ⟨payload, tail, rfl, rfl⟩ :
      ∃ payload tail, length = payload.length ∧ rest = payload ++ tail := by
    refine ⟨rest.take length, rest.drop length, ?_, (List.take_append_drop length rest).symm⟩
    rw [List.length_take, Nat.min_eq_left (Nat.not_lt.mp cut)]
  by_cases message : stream = 3
  · subst message
    exact .inr (.inl ⟨_, _, _, .report reserved bound tail⟩)
  · have low : stream ≤ 2 := by grind
    exact .inr (.inr ⟨⟨stream, reserved, payload, low, bound⟩, tail,
      (List.append_assoc _ _ _).symm⟩)

/-- Every stream is frames and then ends, or frames up to where it goes wrong. -/
theorem exists_frames (fault : Option String) (octets : Bytes) :
    ∃ (frames : List Frame) (rest : Bytes), octets = frames.flatMap Frame.encode ++ rest ∧
      (rest = [] ∧ fault = none ∨ ∃ toOut toErr defect, Broken fault rest toOut toErr defect) := by
  obtain ended | broken | ⟨f, tail, front⟩ := broken_or_frame fault octets
  · exact ⟨[], octets, rfl, .inl ended⟩
  · exact ⟨[], octets, rfl, .inr broken⟩
  · have shorter : tail.length < octets.length := by
      rw [front, List.length_append, Frame.encode, List.length_append, f.header_length,
        headerLength]
      omega
    obtain ⟨frames, rest, behind, ends⟩ := exists_frames fault tail
    refine ⟨f :: frames, rest, ?_, ends⟩
    rw [front, behind, List.flatMap_cons, List.append_assoc]
termination_by octets.length

/-! ## The loop over frames -/

/-- The header of a frame says which sink its payload is for, and how long it is. -/
theorem Frame.parse_header (f : Frame) :
    ∃ kind, parseHeader f.header = .ok (kind, f.payload.length) ∧
      ((kind = .stdin ∨ kind = .stdout) ∧ f.toStdout = f.payload ∧ f.toStderr = [] ∨
        kind = .stderr ∧ f.toStdout = [] ∧ f.toStderr = f.payload) := by
  have length : bigEndian (f.header.drop 4) = f.payload.length := bigEndian_uint32 f.length_lt
  have first : f.header.headD 0 = f.stream := rfl
  simp only [parseHeader, length, first, Frame.toStdout, Frame.toStderr]
  rcases f.stream_cases with h | h | h <;> rw [h] <;> simp [StreamKind.ofOctet?]

namespace Copying

/-- A stream of which some octets have gone to sinks without a limit. -/
def given (out err : Bytes) (reads : List Read) : Copying :=
  ⟨⟨out.length, err.length⟩, ⟨none, out⟩, ⟨none, err⟩, reads⟩

/-- A turn with a frame at the front of what reads bring: its payload goes to its sink, and the
reads left bring what follows it. -/
theorem turn_encode (f : Frame) {tail : Bytes} {reads : List Read} (out err : Bytes)
    (front : arrived reads = f.encode ++ tail) :
    ∃ rest, arrived rest = tail ∧ fault? rest = fault? reads ∧
      (given out err reads).turn = .more (given (out ++ f.toStdout) (err ++ f.toStderr) rest) := by
  rw [Frame.encode, List.append_assoc] at front
  obtain ⟨middle, found, behind, faults⟩ := readHeader_whole front f.header_length
  obtain ⟨kind, parsed, output | ⟨rfl, toOut, toErr⟩⟩ := f.parse_header
  · obtain ⟨isOut, toOut, toErr⟩ := output
    obtain ⟨rest, copied, tails, faults'⟩ :=
      copyPayload_whole none out behind rfl
    rw [Sink.after_none, Sink.after_none] at copied
    refine ⟨rest, tails, faults'.trans faults, ?_⟩
    rcases isOut with rfl | rfl <;>
      simp [given, turn, found, parsed, Except.map, copied, toOut, toErr]
  · obtain ⟨rest, copied, tails, faults'⟩ :=
      copyPayload_whole none err behind rfl
    rw [Sink.after_none, Sink.after_none] at copied
    refine ⟨rest, tails, faults'.trans faults, ?_⟩
    simp [given, turn, found, parsed, Except.map, copied, toOut, toErr]

/-- A turn that finds no header of a frame is the last one. -/
theorem turn_headless {c : Copying} {found : Except Failure (Option (StreamKind × Nat))}
    (header : (readHeader c.reads).1 = found) :
    (∀ f, found = .error f → c.turn = c.stop (.error f)) ∧
      (found = .ok none → c.turn = c.stop (.ok c.counts)) := by
  rcases result : readHeader c.reads with ⟨found', rest⟩
  rw [result] at header
  subst header
  constructor
  · rintro f rfl
    simp only [turn, result]
  · rintro rfl
    simp only [turn, result]

/-- A turn where the stream has ended between two frames. -/
theorem turn_ended {reads : List Read} (nothing : arrived reads = []) (ended : fault? reads = none)
    (out err : Bytes) :
    (given out err reads).turn =
      .done ⟨⟨none, out⟩, ⟨none, err⟩, .ok ⟨out.length, err.length⟩⟩ := by
  have header := readHeader_scarce (by rw [nothing]; decide : (arrived reads).length < _)
  rw [ended, nothing] at header
  exact (turn_headless (c := given out err reads) header).2 rfl

/-- A turn where the stream goes wrong: it is the last one, what is there of a payload has gone to
its sink, and the defect is the failure. -/
theorem turn_broken {reads : List Read} {toOut toErr : Bytes} {defect : Defect}
    (broken : Broken (fault? reads) (arrived reads) toOut toErr defect) (out err : Bytes) :
    (given out err reads).turn =
      .done ⟨⟨none, out ++ toOut⟩, ⟨none, err ++ toErr⟩, .error defect.failure⟩ := by
  obtain ⟨octets, front⟩ : ∃ octets, arrived reads = octets := ⟨_, rfl⟩
  rw [front] at broken
  cases broken with
  | inHeader short missing =>
      have header := readHeader_scarce (front ▸ short)
      rw [front] at header
      rw [List.append_nil, List.append_nil]
      refine (turn_headless (c := given out err reads) header).1 _ ?_
      cases ended : fault? reads with
      | some text => rfl
      | none => exact if_neg (missing.resolve_right fun other => other ended)
  | @unknown stream high reserved length bound more =>
      obtain ⟨rest, found, -⟩ := readHeader_whole front (headerOf_length ..)
      rw [parse_headerOf stream reserved bound, ofOctet?_high high] at found
      rw [List.append_nil, List.append_nil]
      exact (turn_headless (c := given out err reads) (congrArg Prod.fst found)).1 _ rfl
  | @inPayload stream known reserved length bound part short =>
      obtain ⟨rest, found, behind, faults⟩ := readHeader_whole front (headerOf_length ..)
      rw [parse_headerOf stream reserved bound] at found
      have scarce : (arrived rest).length < length := behind ▸ short
      have fails : shortfall length 0 rest =
          ((Defect.shortPayload length part.length).orLost (fault? reads)).failure := by
        rw [shortfall, Nat.zero_add, faults, behind]
        cases fault? reads <;> rfl
      obtain isOut | rfl | rfl := stream_known known
      · obtain ⟨left, copied⟩ := copyPayload_scarce out scarce
        rcases isOut with rfl | rfl <;>
          simp [given, turn, found, StreamKind.ofOctet?, Except.map, copied, stop, fails, behind,
            stdoutOf, stderrOf]
      · obtain ⟨left, copied⟩ := copyPayload_scarce err scarce
        simp [given, turn, found, StreamKind.ofOctet?, Except.map, copied, stop, fails, behind,
          stdoutOf, stderrOf]
      · -- A report that is not there in full goes nowhere.
        obtain ⟨left, copied⟩ := copyPayload_scarce [] scarce
        have unread : copyPayload length Sink.unlimited rest = _ := copied
        simp [given, turn, found, StreamKind.ofOctet?, Except.map, unread, stop, fails, stdoutOf,
          stderrOf]
  | @report reserved message bound more =>
      obtain ⟨middle, found, behind, -⟩ := readHeader_whole front (headerOf_length ..)
      rw [parse_headerOf 3 reserved bound] at found
      obtain ⟨rest, copied, -⟩ := copyPayload_whole none [] behind rfl
      have read : copyPayload message.length Sink.unlimited middle = _ := copied
      simp [given, turn, found, StreamKind.ofOctet?, Except.map, read, stop, Defect.failure]

/-- Frames at the front of what reads bring: every payload goes to its sink, in order. -/
theorem run_frames (frames : List Frame) (out err : Bytes) {tail : Bytes} {reads : List Read}
    (front : arrived reads = frames.flatMap Frame.encode ++ tail) :
    ∃ rest, arrived rest = tail ∧ fault? rest = fault? reads ∧
      (given out err reads).run =
        (given (out ++ frames.flatMap Frame.toStdout) (err ++ frames.flatMap Frame.toStderr)
          rest).run := by
  induction frames generalizing out err reads with
  | nil => exact ⟨reads, front, rfl, by simp⟩
  | cons f frames ih =>
      rw [List.flatMap_cons, List.append_assoc] at front
      obtain ⟨middle, behind, faults, turned⟩ := turn_encode f out err front
      obtain ⟨rest, tails, faults', ran⟩ := ih (out ++ f.toStdout) (err ++ f.toStderr) behind
      refine ⟨rest, tails, faults'.trans faults, ?_⟩
      rw [run_more turned, ran, List.flatMap_cons, List.flatMap_cons, List.append_assoc,
        List.append_assoc]

/-- Splitting the encoding of frames. -/
theorem run_encode (frames : List Frame) {reads : List Read}
    (front : arrived reads = frames.flatMap Frame.encode) (ended : fault? reads = none) :
    (given [] [] reads).run =
      ⟨⟨none, frames.flatMap Frame.toStdout⟩, ⟨none, frames.flatMap Frame.toStderr⟩,
        .ok ⟨(frames.flatMap Frame.toStdout).length,
          (frames.flatMap Frame.toStderr).length⟩⟩ := by
  rw [← List.append_nil (frames.flatMap Frame.encode)] at front
  obtain ⟨rest, nothing, faults, ran⟩ := run_frames frames [] [] front
  rw [ran, run_done (turn_ended nothing (faults.trans ended) _ _), List.nil_append,
    List.nil_append]

/-- Splitting a stream that goes wrong behind some frames. -/
theorem run_broken (frames : List Frame) {left toOut toErr : Bytes} {defect : Defect}
    {reads : List Read} (front : arrived reads = frames.flatMap Frame.encode ++ left)
    (broken : Broken (fault? reads) left toOut toErr defect) :
    (given [] [] reads).run =
      ⟨⟨none, frames.flatMap Frame.toStdout ++ toOut⟩,
        ⟨none, frames.flatMap Frame.toStderr ++ toErr⟩, .error defect.failure⟩ := by
  obtain ⟨rest, tails, faults, ran⟩ := run_frames frames [] [] front
  rw [← tails, ← faults] at broken
  rw [ran, run_done (turn_broken broken _ _), List.nil_append, List.nil_append]

/-- What is split without a failure is the encoding of frames. -/
theorem frames_of_run_ok {counts : Counts} {reads : List Read}
    (ok : (given [] [] reads).run.result = .ok counts) :
    ∃ frames : List Frame, arrived reads = frames.flatMap Frame.encode := by
  obtain ⟨frames, rest, front, ⟨rfl, -⟩ | ⟨_, _, _, broken⟩⟩ :=
    exists_frames (fault? reads) (arrived reads)
  · exact ⟨frames, by rw [front, List.append_nil]⟩
  · rw [run_broken frames front broken] at ok
    cases ok

end Copying

/-! ## Every cut of every stream -/

/-- **The streams that are split without a failure are the encodings of lists of frames**, however
they are cut into reads: each payload has gone to its sink, in order, and the counts are
the lengths of what the sinks were given. -/
theorem demultiplex_chunks (chunks : List Bytes) (nonempty : ∀ c ∈ chunks, c ≠ []) :
    (∀ frames : List Frame, chunks.flatten = frames.flatMap Frame.encode →
      demultiplex .unlimited .unlimited (chunks.map .chunk) =
        ⟨⟨none, frames.flatMap Frame.toStdout⟩, ⟨none, frames.flatMap Frame.toStderr⟩,
          .ok ⟨(frames.flatMap Frame.toStdout).length,
            (frames.flatMap Frame.toStderr).length⟩⟩) ∧
    (∀ counts, (demultiplex .unlimited .unlimited (chunks.map .chunk)).result = .ok counts →
      ∃ frames : List Frame, chunks.flatten = frames.flatMap Frame.encode) := by
  have brought := arrived_chunks nonempty
  refine ⟨fun frames written => ?_, fun counts ok => ?_⟩
  · exact Copying.run_encode frames (brought.trans written) (fault?_chunks chunks)
  · obtain ⟨frames, written⟩ := Copying.frames_of_run_ok ok
    exact ⟨frames, brought.symm.trans written⟩

/-- Reads that end inside headers and payloads, with a frame of no octets between two others. -/
theorem demultiplex_chunks_inside_frames :
    let chunks : List Bytes := [[1, 0, 0], [0, 0, 0, 0, 2, 104],
      [105, 2, 9, 9, 9, 0, 0, 0, 0, 0], [0, 0, 0, 0, 0, 0, 1, 33]]
    (∀ c ∈ chunks, c ≠ []) ∧
      demultiplex .unlimited .unlimited (chunks.map .chunk) =
        ⟨⟨none, [104, 105, 33]⟩, ⟨none, []⟩, .ok ⟨3, 0⟩⟩ :=
  ⟨by decide, (demultiplex_chunks _ (by decide)).1
    [⟨1, (0, 0, 0), [104, 105], by decide, by decide⟩,
      ⟨2, (9, 9, 9), [], by decide, by decide⟩,
      ⟨0, (0, 0, 0), [33], by decide, by decide⟩] (by decide)⟩

end ComposeSite.Exec
