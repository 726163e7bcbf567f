/-
# ComposeSite.Proofs.Exec.Limit -- sinks with limits

A stream that is split says which octets are for which sink, in one order for both
(`addressed`).  Sinks without limits get their shares of that.  Sinks with limits get the
same as long as no octet passes one of the limits; the first that does ends the copying
(`Cut`), and nothing behind it counts: no later octet for the other sink, no defect, no
failing read.

Every stream begins with something that no sink sees (`Silent`), or with a payload for one
of them.  A turn of the loop does not look at the sinks on the first (`turn_silent`), and on
the second only where the payload passes the limit of its sink (`turn_payload`).  By induction
on the reads, a run within the limits is the run without them (`run_within`), and one beyond
them ends at the octet that is too many (`run_cut`).
-/
import ComposeSite.Proofs.Exec.Cutting

set_option autoImplicit false

namespace ComposeSite.Exec

open Output

/-! ## Who gets what -/

/-- The sinks that a stream is split into. -/
inductive Outlet where
  | stdout
  | stderr
  deriving DecidableEq, Repr

namespace Outlet

/-- The sink that payloads of a stream number are for. -/
def ofStream? (stream : UInt8) : Option Outlet :=
  if stream = 0 ∨ stream = 1 then some stdout
  else if stream = 2 then some stderr
  else none

/-- What of octets for either sink is for this one. -/
def share (o : Outlet) (sent : List (Outlet × UInt8)) : Bytes :=
  (sent.filter (·.1 = o)).map Prod.snd

variable (o : Outlet)

@[simp]
theorem share_append (a b : List (Outlet × UInt8)) : o.share (a ++ b) = o.share a ++ o.share b := by
  simp [share]

@[simp]
theorem share_self (data : Bytes) : o.share (data.map (o, ·)) = data := by
  induction data with
  | nil => rfl
  | cons b data ih => simpa [share] using ih

@[simp]
theorem share_other {p : Outlet} (other : o ≠ p) (data : Bytes) :
    o.share (data.map (p, ·)) = [] := by
  simp [share, other.symm]

end Outlet

/-- The octets of a stream that are for sinks, in the order of the stream: the payload of each
frame up to the first frame that is for no sink or is not there in full, and what is there of
that one. -/
def addressed : Bytes → List (Outlet × UInt8)
  | stream :: _ :: _ :: _ :: a :: b :: c :: d :: body =>
      match Outlet.ofStream? stream with
      | none => []
      | some o =>
          let length := bigEndian [a, b, c, d]
          (body.take length).map (o, ·) ++ addressed (body.drop length)
  | _ => []
  termination_by octets => octets.length
  decreasing_by simp only [List.length_drop, List.length_cons]; omega

theorem addressed_short {octets : Bytes} (short : octets.length < headerLength) :
    addressed octets = [] := by
  unfold addressed
  split
  · simp only [List.length_cons, headerLength] at short
    omega
  · rfl

theorem addressed_drop {length : Nat} {body : Bytes} (lacking : body.length < length) :
    addressed (body.drop length) = [] := by
  rw [List.drop_of_length_le (Nat.le_of_lt lacking)]
  exact addressed_short (by decide)

theorem addressed_headerOf (stream : UInt8) (reserved : UInt8 × UInt8 × UInt8) {length : Nat}
    (bound : length < 0x100000000) (body : Bytes) :
    addressed (headerOf stream reserved length ++ body) =
      match Outlet.ofStream? stream with
      | none => []
      | some o => (body.take length).map (o, ·) ++ addressed (body.drop length) := by
  have spelled := bigEndian_uint32 bound
  simp only [headerOf, Ssh.Wire.uint32, List.cons_append, List.nil_append] at spelled ⊢
  rw [addressed, spelled]

/-- Nothing at the front of a stream is for a sink: there is no header, or that of a frame for
neither of them. -/
def Silent (octets : Bytes) : Prop :=
  octets.length < headerLength ∨ ∃ stream reserved length body, length < 0x100000000 ∧
    octets = headerOf stream reserved length ++ body ∧ Outlet.ofStream? stream = none

theorem addressed_silent {octets : Bytes} (silent : Silent octets) : addressed octets = [] := by
  obtain short | ⟨stream, reserved, length, body, bound, rfl, none⟩ := silent
  · exact addressed_short short
  · rw [addressed_headerOf stream reserved bound, none]

/-- A stream has nothing for a sink at its front, or the header of a payload for one. -/
theorem silent_or_payload (octets : Bytes) :
    Silent octets ∨ ∃ stream reserved length body o, length < 0x100000000 ∧
      octets = headerOf stream reserved length ++ body ∧ Outlet.ofStream? stream = some o := by
  by_cases short : octets.length < headerLength
  · exact .inl (.inl short)
  · obtain ⟨stream, reserved, length, body, bound, front⟩ :=
      exists_headerOf_append (Nat.not_lt.mp short)
    cases known : Outlet.ofStream? stream with
    | none => exact .inl (.inr ⟨stream, reserved, length, body, bound, front, known⟩)
    | some o => exact .inr ⟨stream, reserved, length, body, o, bound, front, known⟩

theorem addressed_payload {stream : UInt8} {o : Outlet} (known : Outlet.ofStream? stream = some o)
    (reserved : UInt8 × UInt8 × UInt8) {length : Nat} (bound : length < 0x100000000)
    (body : Bytes) :
    addressed (headerOf stream reserved length ++ body) =
      (body.take length).map (o, ·) ++ addressed (body.drop length) := by
  rw [addressed_headerOf stream reserved bound, known]

theorem Frame.ofStream?_stream (f : Frame) : ∃ o, Outlet.ofStream? f.stream = some o := by
  rcases f.stream_cases with h | h | h <;> rw [h]
  · exact ⟨.stdout, rfl⟩
  · exact ⟨.stdout, rfl⟩
  · exact ⟨.stderr, rfl⟩

/-- The payload of a frame is for its sink, and what follows it is for whom it is for. -/
theorem addressed_encode (f : Frame) :
    ∃ o, ∀ tail, addressed (f.encode ++ tail) = f.payload.map (o, ·) ++ addressed tail := by
  obtain ⟨o, known⟩ := f.ofStream?_stream
  refine ⟨o, fun tail => ?_⟩
  have written : f.encode ++ tail =
      headerOf f.stream f.reserved f.payload.length ++ (f.payload ++ tail) := List.append_assoc ..
  rw [written, addressed_payload known _ f.length_lt, List.take_left, List.drop_left]

/-- Frames without octets bring nothing to a sink, wherever they stand. -/
theorem addressed_empties (frames : List Frame) {empties : List Frame}
    (empty : ∀ f ∈ empties, f.payload = []) (tail : Bytes) :
    addressed (frames.flatMap Frame.encode ++ (empties.flatMap Frame.encode ++ tail)) =
      addressed (frames.flatMap Frame.encode ++ tail) := by
  induction frames with
  | nil =>
      induction empties with
      | nil => rfl
      | cons f empties ih =>
          obtain ⟨o, told⟩ := addressed_encode f
          have rest := ih fun f member => empty f (List.mem_cons_of_mem _ member)
          simp only [List.flatMap_nil, List.nil_append, List.flatMap_cons, List.append_assoc] at rest ⊢
          rw [told, empty f List.mem_cons_self, rest]
          rfl
  | cons f frames ih =>
      obtain ⟨o, told⟩ := addressed_encode f
      rw [List.flatMap_cons, List.append_assoc, List.append_assoc, told, told, ih]

/-! ## Limits -/

/-- Where a list is cut at an element, its first part ends before that, or has it. -/
theorem append_eq_cut {α : Type} {a b before after : List α} {x : α}
    (split : a ++ b = before ++ x :: after) :
    (∃ more, before = a ++ more ∧ b = more ++ x :: after) ∨
      ∃ more, a = before ++ x :: more := by
  obtain ⟨more, front, rest⟩ | ⟨more, front, rest⟩ := List.append_eq_append_iff.mp split
  · exact .inl ⟨more, front, rest⟩
  · cases more with
    | nil => exact .inl ⟨[], by rw [front, List.append_nil, List.append_nil], rest.symm⟩
    | cons y more =>
        obtain ⟨rfl, -⟩ := List.cons.inj rest
        exact .inr ⟨more, front⟩

/-- Sinks without limits. -/
abbrev unbounded : Outlet → Option Nat := fun _ => none

/-- Whether octets for sinks stay within the limits of these. -/
def Within (limits : Outlet → Option Nat) (sent : List (Outlet × UInt8)) : Prop :=
  ∀ o, exceeds (limits o) (o.share sent) = false

/-- No limit is passed, and that of a sink is reached, so that one more octet for it passes it. -/
structure Cut (limits : Outlet → Option Nat) (before : List (Outlet × UInt8)) (o : Outlet) :
    Prop where
  within : Within limits before
  full : limits o = some (o.share before).length

section Limits

variable {limits : Outlet → Option Nat} {sent before after : List (Outlet × UInt8)} {o : Outlet}

theorem within_nil (limits : Outlet → Option Nat) : Within limits [] := by
  intro o
  cases limits o <;> rfl

theorem Within.left (within : Within limits (before ++ after)) : Within limits before := by
  intro o
  have both := within o
  rw [Outlet.share_append] at both
  exact exceeds_append_left both

theorem within_append_iff (within : Within limits sent) (o : Outlet) (data : Bytes) :
    Within limits (sent ++ data.map (o, ·)) ↔
      exceeds (limits o) (o.share sent ++ data) = false := by
  constructor
  · intro both
    simpa using both o
  · intro fits p
    by_cases same : p = o
    · subst same
      simpa using fits
    · simpa [Outlet.share_other _ same] using within p

theorem Cut.not_within (cut : Cut limits before o) (b : UInt8) :
    ¬ Within limits (before ++ (o, b) :: after) := by
  intro within
  have next : Within limits (before ++ [b].map (o, ·)) := by
    rw [List.append_cons] at within
    exact within.left
  rw [within_append_iff cut.within, cut.full] at next
  simp [exceeds] at next

/-- Octets that pass a limit have a first one that does. -/
theorem exists_cut (within : Within limits sent) (beyond : ¬ Within limits (sent ++ after)) :
    ∃ before o b later, after = before ++ (o, b) :: later ∧ Cut limits (sent ++ before) o := by
  induction after generalizing sent with
  | nil => exact absurd (by rwa [List.append_nil]) beyond
  | cons next after ih =>
      obtain ⟨o, b⟩ := next
      by_cases still : Within limits (sent ++ [b].map (o, ·))
      · obtain ⟨before, p, c, later, rfl, cut⟩ := ih still (by simpa using beyond)
        exact ⟨(o, b) :: before, p, c, later, rfl, by simpa using cut⟩
      · refine ⟨[], o, b, after, rfl, by simpa using within, ?_⟩
        rw [within_append_iff within, Bool.not_eq_false] at still
        rw [List.append_nil]
        exact eq_of_exceeds_concat (within o) still

end Limits

/-- What has come of a stream of which octets have gone to sinks with limits. -/
def ended (limits : Outlet → Option Nat) (sent : List (Outlet × UInt8))
    (result : Except Failure Counts) : Split where
  stdout := .after (limits .stdout) (Outlet.stdout.share sent)
  stderr := .after (limits .stderr) (Outlet.stderr.share sent)
  result := result

/-- A payload that passes a limit leaves what there is up to the octet that does. -/
theorem ended_of_cut {limits : Outlet → Option Nat} {sent before after : List (Outlet × UInt8)}
    {o p : Outlet} {b : UInt8} {data : Bytes} (split : data.map (o, ·) = before ++ (p, b) :: after)
    (cut : Cut limits (sent ++ before) p) (result : Except Failure Counts) :
    ended limits (sent ++ data.map (o, ·)) result = ended limits (sent ++ before) result := by
  obtain ⟨first, rest, rfl, rfl, more⟩ := List.map_eq_append_iff.mp split
  obtain ⟨c, rest, rfl, same, -⟩ := List.map_eq_cons_iff.mp more
  obtain rfl : o = p := congrArg Prod.fst same
  have sinks : ∀ q, Sink.after (limits q) (q.share (sent ++ (first ++ c :: rest).map (o, ·))) =
      Sink.after (limits q) (q.share (sent ++ first.map (o, ·))) := by
    intro q
    by_cases other : q = o
    · subst other
      have full := cut.full
      rw [Outlet.share_append, Outlet.share_self] at full ⊢
      rw [Outlet.share_append, Outlet.share_self, ← List.append_assoc, full]
      simp only [Sink.after, allowed, List.take_left, List.take_length]
    · simp only [Outlet.share_append, Outlet.share_other q other]
  simp only [ended, sinks]

/-! ## One turn -/

/-- A stream number that is for a sink. -/
theorem ofOctet?_of_some {stream : UInt8} {o : Outlet}
    (known : Outlet.ofStream? stream = some o) :
    ∃ kind, StreamKind.ofOctet? stream = some kind ∧
      (o = .stdout ∧ (kind = .stdin ∨ kind = .stdout) ∨ o = .stderr ∧ kind = .stderr) := by
  unfold Outlet.ofStream? at known
  unfold StreamKind.ofOctet?
  grind

/-- A stream number that is for no sink is that of the daemon, or means nothing. -/
theorem ofOctet?_of_none {stream : UInt8} (none : Outlet.ofStream? stream = none) :
    StreamKind.ofOctet? stream = some .system ∨ StreamKind.ofOctet? stream = Option.none := by
  unfold Outlet.ofStream? at none
  unfold StreamKind.ofOctet?
  grind

namespace Copying

/-- A stream of which octets have gone to sinks with limits. -/
def reached (limits : Outlet → Option Nat) (sent : List (Outlet × UInt8)) (reads : List Read) :
    Copying where
  counts := ⟨(Outlet.stdout.share sent).length, (Outlet.stderr.share sent).length⟩
  stdout := .after (limits .stdout) (Outlet.stdout.share sent)
  stderr := .after (limits .stderr) (Outlet.stderr.share sent)
  reads := reads

/-- What comes of a turn where nothing is for a sink does not depend on the sinks. -/
theorem turn_silent {reads : List Read} (silent : Silent (arrived reads)) :
    ∃ result : Counts → Except Failure Counts, ∀ c : Copying, c.reads = reads →
      c.turn = c.stop (result c.counts) := by
  obtain short | ⟨stream, reserved, length, body, bound, front, none⟩ := silent
  · have header := readHeader_scarce short
    cases ended : fault? reads with
    | some text =>
        rw [ended] at header
        exact ⟨fun _ => .error (readFailure text), fun c same =>
          (turn_headless (same ▸ header)).1 _ rfl⟩
    | none =>
        rw [ended] at header
        by_cases nothing : arrived reads = []
        · rw [if_pos nothing] at header
          exact ⟨.ok, fun c same => (turn_headless (same ▸ header)).2 rfl⟩
        · rw [if_neg nothing] at header
          exact ⟨fun _ => .error (.frame (.truncatedHeader (arrived reads).length)),
            fun c same => (turn_headless (same ▸ header)).1 _ rfl⟩
  · obtain ⟨middle, found, -⟩ := readHeader_whole front (headerOf_length ..)
    rw [parse_headerOf stream reserved bound] at found
    obtain system | high := ofOctet?_of_none none
    · rw [system] at found
      -- A message of the daemon goes to neither sink, whether or not it is there in full.
      rcases copied : copyPayload length .unlimited middle with ⟨message, f | n, left⟩
      · refine ⟨fun _ => .error f, ?_⟩
        rintro c rfl
        simp only [turn, found, Except.map, copied]
      · refine ⟨fun _ => .error (.daemon message.accepted), ?_⟩
        rintro c rfl
        simp only [turn, found, Except.map, copied]
    · rw [high] at found
      exact ⟨fun _ => .error (.frame (.unknownStream stream.toNat)), fun c same =>
        (turn_headless (same ▸ congrArg Prod.fst found)).1 _ rfl⟩

/-- A turn with a payload for a sink: it goes there, and the turn is the last one if that passes
the limit, or if the payload is not there in full. -/
theorem turn_payload {stream : UInt8} {reserved : UInt8 × UInt8 × UInt8} {length : Nat}
    {body : Bytes} {reads : List Read} {o : Outlet} (bound : length < 0x100000000)
    (front : arrived reads = headerOf stream reserved length ++ body)
    (known : Outlet.ofStream? stream = some o) :
    ∃ short : Failure, ∀ limits sent, Within limits sent →
      let next := sent ++ (body.take length).map (o, ·)
      (¬ Within limits next →
        (reached limits sent reads).turn = .done (ended limits next (.error sinkFailure))) ∧
      (Within limits next → body.length < length →
        (reached limits sent reads).turn = .done (ended limits next (.error short))) ∧
      (Within limits next → length ≤ body.length →
        ∃ later, arrived later = body.drop length ∧ fault? later = fault? reads ∧
          (reached limits sent reads).turn = .more (reached limits next later)) := by
  obtain ⟨middle, found, behind, faults⟩ := readHeader_whole front (headerOf_length ..)
  obtain ⟨kind, numbered, isFor⟩ := ofOctet?_of_some known
  rw [parse_headerOf stream reserved bound, numbered] at found
  refine ⟨shortfall length 0 middle, fun limits sent within => ?_⟩
  obtain ⟨later, copied, tails⟩ := copyPayload_after (within o) length middle
  obtain ⟨part, there⟩ : ∃ part, body.take length = part := ⟨_, rfl⟩
  rw [behind, there] at copied tails
  rw [there]
  intro next
  have passes : Within limits next ↔ _ := within_append_iff within o part
  refine ⟨fun beyond => ?_, fun fits scarce => ?_, fun fits enough => ?_⟩
  · rw [if_pos (by rwa [passes, Bool.not_eq_false] at beyond)] at copied
    rcases isFor with ⟨rfl, rfl | rfl⟩ | ⟨rfl, rfl⟩ <;>
      simp [turn, reached, found, Except.map, copied, stop, ended, next]
  · rw [passes.mp fits, if_neg Bool.false_ne_true, if_pos scarce] at copied
    rcases isFor with ⟨rfl, rfl | rfl⟩ | ⟨rfl, rfl⟩ <;>
      simp [turn, reached, found, Except.map, copied, stop, ended, next]
  · obtain ⟨octets, fault⟩ := tails (passes.mp fits) enough
    rw [passes.mp fits, if_neg Bool.false_ne_true, if_neg (Nat.not_lt.mpr enough)] at copied
    have whole : part.length = length := there ▸ List.length_take_of_le enough
    refine ⟨later, octets, fault.trans faults, ?_⟩
    rcases isFor with ⟨rfl, rfl | rfl⟩ | ⟨rfl, rfl⟩ <;>
      simp [turn, reached, found, Except.map, copied, next, whole]

/-! ## The whole stream -/

/-- Where no limit is passed, what comes of a stream is what comes of it without limits. -/
theorem run_within {limits : Outlet → Option Nat} {sent : List (Outlet × UInt8)}
    (reads : List Read) (fits : Within limits (sent ++ addressed (arrived reads))) :
    (reached limits sent reads).run =
      ended limits (sent ++ addressed (arrived reads))
        (reached unbounded sent reads).run.result := by
  obtain silent | ⟨stream, reserved, length, body, o, bound, front, known⟩ :=
    silent_or_payload (arrived reads)
  · obtain ⟨result, turned⟩ := turn_silent silent
    rw [addressed_silent silent, List.append_nil, run_done (turned (reached limits sent reads) rfl),
      run_done (turned (reached unbounded sent reads) rfl)]
    rfl
  have next := addressed_payload known reserved bound body
  obtain ⟨short, turned⟩ := turn_payload bound front known
  rw [front, next, ← List.append_assoc] at fits ⊢
  obtain ⟨-, scarce, enough⟩ := turned limits sent fits.left.left
  obtain ⟨-, scarce', enough'⟩ := turned unbounded sent fun _ => rfl
  by_cases lacking : body.length < length
  · rw [addressed_drop lacking, List.append_nil, run_done (scarce fits.left lacking),
      run_done (scarce' (fun _ => rfl) lacking)]
    rfl
  · obtain ⟨later, octets, fault, more⟩ := enough fits.left (Nat.not_lt.mp lacking)
    obtain ⟨later', octets', fault', more'⟩ := enough' (fun _ => rfl) (Nat.not_lt.mp lacking)
    rw [run_more more, run_more more', ← octets, run_within later (octets ▸ fits)]
    -- The two runs have read the same, from reads that were cut differently.
    exact congrArg (fun s : Split => ended limits _ s.result)
      (run_alike ⟨rfl, rfl, rfl, octets.trans octets'.symm, fault.trans fault'.symm⟩)
  termination_by pending reads
  decreasing_by exact pending_turn more

/-- Where an octet passes the limit of its sink, the copying ends. -/
theorem run_cut {limits : Outlet → Option Nat} {sent before after : List (Outlet × UInt8)}
    {o : Outlet} {b : UInt8} (reads : List Read)
    (split : addressed (arrived reads) = before ++ (o, b) :: after)
    (cut : Cut limits (sent ++ before) o) :
    (reached limits sent reads).run = ended limits (sent ++ before) (.error sinkFailure) := by
  obtain silent | ⟨stream, reserved, length, body, p, bound, front, known⟩ :=
    silent_or_payload (arrived reads)
  · rw [addressed_silent silent] at split
    exact absurd split.symm (by simp)
  obtain ⟨short, turned⟩ := turn_payload bound front known
  obtain ⟨passes, -, enough⟩ := turned limits sent cut.within.left
  rw [front, addressed_payload known reserved bound body] at split
  obtain ⟨rest, rfl, behind⟩ | ⟨rest, inside⟩ := append_eq_cut split
  · -- The payload is within the limits, and there is more behind it.
    rw [← List.append_assoc] at cut ⊢
    have whole : length ≤ body.length := by
      refine Nat.not_lt.mp fun lacking => ?_
      rw [addressed_drop lacking] at behind
      exact absurd behind.symm (by simp)
    obtain ⟨later, octets, -, more⟩ := enough cut.within.left whole
    rw [run_more more]
    exact run_cut later (octets ▸ behind) cut
  · have beyond : ¬ Within limits (sent ++ (body.take length).map (p, ·)) := by
      rw [inside, ← List.append_assoc]
      exact cut.not_within b
    rw [run_done (passes beyond), ended_of_cut inside cut]
  termination_by pending reads
  decreasing_by exact pending_turn more

/-- What comes of a stream within limits is a matter of the octets for the sinks and of what comes
of it without limits. -/
theorem run_reached_congr (limits : Outlet → Option Nat) {reads reads' : List Read}
    (same : addressed (arrived reads') = addressed (arrived reads))
    (alike : (reached unbounded [] reads').run = (reached unbounded [] reads).run) :
    (reached limits [] reads').run = (reached limits [] reads).run := by
  by_cases fits : Within limits ([] ++ addressed (arrived reads))
  · rw [run_within reads fits, run_within reads' (same ▸ fits), alike, same]
  · obtain ⟨before, o, b, after, split, cut⟩ := exists_cut (within_nil limits) fits
    rw [run_cut reads split cut, run_cut reads' (same.trans split) cut]

/-- Frames without octets change nothing where there are no limits. -/
theorem run_empties (frames : List Frame) {empties : List Frame}
    (empty : ∀ f ∈ empties, f.payload = []) {tail : Bytes} {reads reads' : List Read}
    (front : arrived reads = frames.flatMap Frame.encode ++ (empties.flatMap Frame.encode ++ tail))
    (front' : arrived reads' = frames.flatMap Frame.encode ++ tail)
    (faults : fault? reads' = fault? reads) :
    (given [] [] reads').run = (given [] [] reads).run := by
  have toOut : empties.flatMap Frame.toStdout = [] :=
    List.flatMap_eq_nil_iff.mpr fun f member => by simp [Frame.toStdout, empty f member]
  have toErr : empties.flatMap Frame.toStderr = [] :=
    List.flatMap_eq_nil_iff.mpr fun f member => by simp [Frame.toStderr, empty f member]
  obtain ⟨middle, behind, fault, ran⟩ := run_frames frames [] [] front
  obtain ⟨rest, tails, fault', skipped⟩ := run_frames empties _ _ behind
  obtain ⟨rest', tails', fault'', ran'⟩ := run_frames frames [] [] front'
  rw [ran, ran', skipped, toOut, toErr, List.append_nil, List.append_nil]
  exact run_alike ⟨rfl, rfl, rfl, tails'.trans tails.symm,
    fault''.trans (faults.trans (fault'.trans fault).symm)⟩

end Copying

/-- The sinks of what has come of a stream. -/
def Split.sink (s : Split) : Outlet → Sink
  | .stdout => s.stdout
  | .stderr => s.stderr

theorem ended_sink (limits : Outlet → Option Nat) (sent : List (Outlet × UInt8))
    (result : Except Failure Counts) (o : Outlet) :
    (ended limits sent result).sink o = .after (limits o) (o.share sent) := by
  cases o <;> rfl

theorem demultiplex_reached (limits : Outlet → Option Nat) (reads : List Read) :
    demultiplex { limit := limits .stdout } { limit := limits .stderr } reads =
      (Copying.reached limits [] reads).run := by
  rw [← Sink.after_nil, ← Sink.after_nil]
  rfl

theorem demultiplex_within (limits : Outlet → Option Nat) (reads : List Read)
    (fits : Within limits (addressed (arrived reads))) :
    demultiplex { limit := limits .stdout } { limit := limits .stderr } reads =
      ended limits (addressed (arrived reads))
        (demultiplex .unlimited .unlimited reads).result := by
  rw [demultiplex_reached limits, Copying.run_within reads fits]
  rfl

/-- Sinks without limits get their shares. -/
theorem free_sink (reads : List Read) (o : Outlet) :
    ((demultiplex .unlimited .unlimited reads).sink o).accepted =
      o.share (addressed (arrived reads)) := by
  have free : demultiplex .unlimited .unlimited reads = _ :=
    demultiplex_within unbounded reads fun _ => rfl
  rw [free, ended_sink]
  rfl

theorem demultiplex_cut {limits : Outlet → Option Nat} {before after : List (Outlet × UInt8)}
    {o : Outlet} {b : UInt8} (reads : List Read)
    (split : addressed (arrived reads) = before ++ (o, b) :: after) (cut : Cut limits before o) :
    demultiplex { limit := limits .stdout } { limit := limits .stderr } reads =
      ended limits before (.error sinkFailure) := by
  rw [demultiplex_reached limits]
  exact Copying.run_cut reads split cut

/-- Frames without octets change nothing, whatever the limits are. -/
theorem demultiplex_empties (limits : Outlet → Option Nat) (frames : List Frame)
    {empties : List Frame} (empty : ∀ f ∈ empties, f.payload = []) {tail : Bytes}
    {reads reads' : List Read}
    (front : arrived reads = frames.flatMap Frame.encode ++ (empties.flatMap Frame.encode ++ tail))
    (front' : arrived reads' = frames.flatMap Frame.encode ++ tail)
    (faults : fault? reads' = fault? reads) :
    demultiplex { limit := limits .stdout } { limit := limits .stderr } reads' =
      demultiplex { limit := limits .stdout } { limit := limits .stderr } reads := by
  have same : addressed (arrived reads') = addressed (arrived reads) := by
    rw [front, front', addressed_empties frames empty]
  rw [demultiplex_reached limits, demultiplex_reached limits]
  exact Copying.run_reached_congr limits same (Copying.run_empties frames empty front front' faults)

/-- **Sinks with limits cut a stream where they are full.** Whatever the reads of a stream bring,
and whether or not one of them fails, sinks without limits get their shares of the octets for
them. If these stay within the limits, sinks with limits get the same, and the outcome is the
same. If not, there is a first octet that passes the limit of its sink; the failure is that of a
full sink, that sink has exactly as much as its limit allows, which is the start of what it gets
without limits, and each has its share of what is before that octet. So only an octet of a
payload makes a sink fail: frames of output without octets change nothing, wherever they stand
and however the stream is cut into reads. -/
theorem demultiplex_limited (reads : List Read) (limits : Outlet → Option Nat) :
    let sent := addressed (arrived reads)
    let free := demultiplex .unlimited .unlimited reads
    let bounded := fun reads : List Read =>
      demultiplex { limit := limits .stdout } { limit := limits .stderr } reads
    (∀ o, (free.sink o).accepted = o.share sent) ∧
    ((∀ o, exceeds (limits o) (free.sink o).accepted = false) →
      (bounded reads).result = free.result ∧
        ∀ o, ((bounded reads).sink o).accepted = (free.sink o).accepted) ∧
    ((∃ o, exceeds (limits o) (free.sink o).accepted = true) →
      ∃ before o b after, sent = before ++ (o, b) :: after ∧ Cut limits before o) ∧
    (∀ before o b after, sent = before ++ (o, b) :: after → Cut limits before o →
      (bounded reads).result = .error sinkFailure ∧
      limits o = some ((bounded reads).sink o).accepted.length ∧
      ((bounded reads).sink o).accepted <+: (free.sink o).accepted ∧
      ∀ p, ((bounded reads).sink p).accepted = p.share before) ∧
    (∀ (frames empties : List Frame) (tail : Bytes) (reads' : List Read),
      (∀ f ∈ empties, f.payload = []) →
      arrived reads = frames.flatMap Frame.encode ++ (empties.flatMap Frame.encode ++ tail) →
      arrived reads' = frames.flatMap Frame.encode ++ tail → fault? reads' = fault? reads →
        bounded reads' = bounded reads) := by
  intro sent free bounded
  have shares : ∀ o, (free.sink o).accepted = o.share sent := free_sink reads
  refine ⟨shares, fun fits => ?_, fun beyond => ?_, fun before o b after split cut => ?_,
    fun frames empties tail reads' empty => demultiplex_empties limits frames empty⟩
  · simp only [shares] at fits ⊢
    have same : bounded reads = ended limits sent free.result :=
      demultiplex_within limits reads fits
    rw [same]
    refine ⟨rfl, fun o => ?_⟩
    rw [ended_sink]
    exact allowed_of_not_exceeds (fits o)
  · simp only [shares] at beyond
    obtain ⟨o, passes⟩ := beyond
    exact exists_cut (within_nil limits) fun fits => absurd (fits o) (by simp [passes])
  · have stops : bounded reads = ended limits before (.error sinkFailure) :=
      demultiplex_cut reads split cut
    have kept : ∀ p, ((bounded reads).sink p).accepted = p.share before := by
      intro p
      rw [stops, ended_sink]
      exact allowed_of_not_exceeds (cut.within p)
    refine ⟨congrArg Split.result stops, by rw [kept]; exact cut.full, ?_, kept⟩
    rw [kept, shares, split, Outlet.share_append]
    exact List.prefix_append ..

/-- A frame without octets is for a standard output that is full, and the next frame for it fails,
in front of a read that fails. With room for that frame, the outcome is that of sinks without
limits. -/
theorem demultiplex_limited_full_stdout :
    let reads : List Read := [.chunk [1, 0, 0, 0, 0, 0],
      .chunk [0, 2, 104, 105, 2, 0, 0, 0, 0, 0, 0, 1, 120],
      .chunk [1, 0, 0, 0, 0, 0, 0, 0, 1, 0, 0], .chunk [0, 0, 0, 0, 2, 33],
      .failure "connection reset"]
    let reads' : List Read := [.chunk [1, 0, 0, 0, 0, 0, 0, 2, 104, 105, 2, 0, 0, 0, 0, 0, 0, 1,
      120, 1, 0, 0, 0, 0, 0, 0, 2, 33], .failure "connection reset"]
    let bounded := fun (room : Nat) (reads : List Read) =>
      demultiplex { limit := some room } { limit := some 1 } reads
    (bounded 2 reads).result = .error sinkFailure ∧
      (bounded 2 reads).stdout.accepted = [104, 105] ∧
      (bounded 2 reads).stderr.accepted = [120] ∧
      (bounded 3 reads).result = (demultiplex .unlimited .unlimited reads).result ∧
      (bounded 3 reads).stdout.accepted = [104, 105, 33] ∧
      bounded 2 reads' = bounded 2 reads := by
  intro reads reads' bounded
  have sent : addressed (arrived reads) =
      [(.stdout, 104), (.stdout, 105), (.stderr, 120), (.stdout, 33)] := by
    simp [reads, arrived, addressed, Outlet.ofStream?, bigEndian]
  let limits (room : Nat) : Outlet → Option Nat
    | .stdout => some room
    | .stderr => some 1
  obtain ⟨-, -, -, full, empties⟩ := demultiplex_limited reads (limits 2)
  obtain ⟨shares, kept, -⟩ := demultiplex_limited reads (limits 3)
  rw [sent] at full shares
  have before : Cut (limits 2) [(.stdout, 104), (.stdout, 105), (.stderr, 120)] .stdout :=
    ⟨fun o => by cases o <;> rfl, rfl⟩
  obtain ⟨fails, -, -, stops⟩ := full _ _ _ [] rfl before
  obtain ⟨same, gets⟩ := kept fun o => by rw [shares]; cases o <;> rfl
  exact ⟨fails, stops .stdout, stops .stderr, same, (gets .stdout).trans (shares .stdout),
    empties [⟨1, (0, 0, 0), [104, 105], by decide, by decide⟩,
        ⟨2, (0, 0, 0), [120], by decide, by decide⟩]
      [⟨1, (0, 0, 0), [], by decide, by decide⟩]
      [1, 0, 0, 0, 0, 0, 0, 2, 33] reads' (by decide) rfl rfl rfl⟩

end ComposeSite.Exec
