/-
# ComposeSite.Proofs.Session.Input -- what is typed is sent once

A session sends what is typed in pieces, and the end of the input as one more send.  What it
wants to send is a function of the steps it has looked at (`sentBy_eq`): the pieces of what
was typed before the input ended and, when it was the end of the input that was reached, one
send for that.  How many of those sends the channel takes is all that the first stop decides
(`FirstStop.forwarded`).

Beside what it sends, a session tells of its work, a piece for each step that it looks at and
one for each send that it makes, by induction on the steps (`Works`, `exists_works`).

A read that fails ends the input without a send.  From then on a session is `Alike` the one
in which nothing more is typed: it looks at the same messages and does the same with them
(`run_failed`).
-/
import ComposeSite.Proofs.Session.Remote

set_option autoImplicit false

namespace ComposeSite.Session

open Output

/-! ## What is typed -/

/-- The octets that a step types. -/
def Step.typed : Step → Bytes
  | .input (.octets data) => data
  | _ => []

/-- The octets that steps type before the input ends. -/
def typedBy (steps : List Step) : Bytes :=
  (steps.takeWhile fun step => !step.endsInput).flatMap Step.typed

/-- Whether steps reach the end of the input, which a read that fails before it keeps out of
reach. -/
def EndReached (steps : List Step) : Prop :=
  ∃ before i later, steps = before ++ .input i :: later ∧ (i = .octets [] ∨ i = .ended) ∧
    ∀ text, .input (.failed text) ∉ before

/-- The octets of a send of data. -/
def Sent.data? : Sent → Option Bytes
  | .data bytes => some bytes
  | .eof => none

/-- The octets of the sends of data, send by send. -/
def dataOf (sent : List Sent) : List Bytes := sent.filterMap Sent.data?

theorem dataOf_append (a b : List Sent) : dataOf (a ++ b) = dataOf a ++ dataOf b :=
  List.filterMap_append

theorem dataOf_map_data (cut : List Bytes) : dataOf (cut.map .data) = cut := by
  rw [dataOf, List.filterMap_map]
  exact List.filterMap_some

theorem pieces_spec (data : Bytes) :
    (pieces data).flatten = data ∧ ∀ p ∈ pieces data, p ≠ [] ∧ p.length ≤ pieceSize := by
  -- on the number of octets: every piece takes some away
  obtain ⟨size, measured⟩ : ∃ size, data.length = size := ⟨_, rfl⟩
  induction size using Nat.strongRecOn generalizing data with
  | _ size ih =>
      by_cases empty : data = []
      · subst empty
        exact ⟨rfl, fun p member => absurd member List.not_mem_nil⟩
      · have shorter : (data.drop pieceSize).length < size := by
          have positive := List.length_pos_iff.mpr empty
          simp only [List.length_drop, pieceSize]
          omega
        obtain ⟨whole, sizes⟩ := ih _ shorter (data.drop pieceSize) rfl
        rw [pieces_of_ne_nil empty]
        refine ⟨by rw [List.flatten_cons, whole, List.take_append_drop], fun p member => ?_⟩
        obtain rfl | later := List.mem_cons.mp member
        · refine ⟨fun none => ?_, List.length_take_le _ _⟩
          obtain zero | empty' := List.take_eq_nil_iff.mp none
          · cases zero
          · exact empty empty'
        · exact sizes p later

theorem dataOf_sends (step : Step) : dataOf step.sends = pieces step.typed := by
  match step with
  | .input (.octets (b :: bs)) => exact dataOf_map_data _
  | .message m | .input (.octets []) | .input .ended | .input (.failed text) =>
      exact pieces_nil.symm

theorem Step.typed_of_endsInput {step : Step} (ends : step.endsInput = true) :
    step.typed = [] := by
  match step with
  | .input (.octets []) | .input .ended | .input (.failed text) => rfl

theorem dataOf_sentBy_concat (before : List Step) (step : Step) :
    dataOf (sentBy (before ++ [step])) =
      dataOf (sentBy before) ++ if inputOpenAfter before then pieces step.typed else [] := by
  rw [sentBy_concat, dataOf_append]
  cases inputOpenAfter before with
  | true => exact congrArg _ (dataOf_sends step)
  | false => rfl

/-- The data that steps want to send is what they type before the input ends. -/
theorem dataOf_sentBy (steps : List Step) :
    (dataOf (sentBy steps)).flatten = typedBy steps ∧
      ∀ p ∈ dataOf (sentBy steps), p ≠ [] ∧ p.length ≤ pieceSize := by
  induction steps with
  | nil => exact ⟨rfl, fun p member => absurd member List.not_mem_nil⟩
  | cons step rest ih =>
      obtain ⟨whole, sizes⟩ := pieces_spec step.typed
      rw [sentBy, dataOf_append, dataOf_sends, typedBy, List.takeWhile_cons]
      cases ends : step.endsInput with
      | true =>
          rw [Step.typed_of_endsInput ends]
          exact ⟨rfl, fun p member => absurd member List.not_mem_nil⟩
      | false =>
          refine ⟨?_, fun p member => ?_⟩
          · rw [List.flatten_append, whole]
            exact congrArg _ ih.1
          · exact (List.mem_append.mp member).elim (sizes p) (ih.2 p)

theorem endReached_cons {step : Step} {rest : List Step} :
    EndReached (step :: rest) ↔
      (step = .input (.octets []) ∨ step = .input .ended) ∨
        (∀ text, step ≠ .input (.failed text)) ∧ EndReached rest := by
  constructor
  · rintro ⟨before, i, later, cut, ends, sound⟩
    cases before with
    | nil =>
        obtain ⟨rfl, -⟩ := List.cons.inj cut
        exact .inl (ends.imp (congrArg Step.input) (congrArg Step.input))
    | cons first before =>
        obtain ⟨rfl, rfl⟩ := List.cons.inj cut
        refine .inr ⟨fun text same => sound text (same ▸ List.mem_cons_self), ?_⟩
        exact ⟨before, i, later, rfl, ends, fun text member =>
          sound text (List.mem_cons_of_mem _ member)⟩
  · rintro ((rfl | rfl) | ⟨other, before, i, later, rfl, ends, sound⟩)
    · exact ⟨[], .octets [], rest, rfl, .inl rfl, fun _ => List.not_mem_nil⟩
    · exact ⟨[], .ended, rest, rfl, .inr rfl, fun _ => List.not_mem_nil⟩
    · refine ⟨step :: before, i, later, rfl, ends, fun text member => ?_⟩
      obtain same | earlier := List.mem_cons.mp member
      · exact other text same.symm
      · exact sound text earlier

/-- What steps want to send: the pieces of what is typed and, once its end is reached, that. -/
theorem sentBy_eq (steps : List Step) :
    ∃ last, sentBy steps = (dataOf (sentBy steps)).map .data ++ last ∧
      (last = [.eof] ∧ EndReached steps ∨ last = [] ∧ ¬EndReached steps) := by
  induction steps with
  | nil =>
      refine ⟨[], rfl, .inr ⟨rfl, ?_⟩⟩
      rintro ⟨before, i, later, cut, -⟩
      exact absurd cut (by simp)
  | cons step rest ih =>
      obtain ⟨last, wanted, reached⟩ := ih
      rw [endReached_cons]
      match step with
      | .message m => exact ⟨last, wanted, by simpa using reached⟩
      | .input (.octets (b :: bs)) =>
          refine ⟨last, ?_, by simpa using reached⟩
          have sends : sentBy (.input (.octets (b :: bs)) :: rest) =
              (pieces (b :: bs)).map .data ++ sentBy rest := rfl
          rw [sends, dataOf_append, dataOf_map_data, List.map_append, List.append_assoc, ← wanted]
      | .input (.octets []) => exact ⟨[.eof], rfl, .inl ⟨rfl, .inl (.inl rfl)⟩⟩
      | .input .ended => exact ⟨[.eof], rfl, .inl ⟨rfl, .inl (.inr rfl)⟩⟩
      | .input (.failed text) => exact ⟨[], rfl, .inr ⟨rfl, by simp⟩⟩

/-! ## What is sent -/

/-- What has been sent of the input of a session that looked at some steps and then stopped for
a cause, `.channel` being that a send was not taken. -/
structure Forwarded (allowance : Option Nat) (upTo : List Step) (cause : Cause)
    (sent : List Sent) : Prop where
  /-- Data goes out in pieces that are neither empty nor too long. -/
  size : ∀ p ∈ dataOf sent, p ≠ [] ∧ p.length ≤ 1024
  /-- The pieces are what was typed, less those from a send on that was not taken, which are the
  end of what the last step typed. -/
  whole : ∃ refused : List Bytes, (dataOf sent ++ refused).flatten = typedBy upTo ∧
    (refused ≠ [] → cause = .channel ∧ allowance = some sent.length ∧
      ∃ before data, upTo = before ++ [.input (.octets data)] ∧ refused.flatten <:+ data)
  /-- The end of the input is sent at most once, and nothing after it. -/
  once : ∀ before after, sent = before ++ .eof :: after → .eof ∉ before ∧ after = []
  /-- The end of the input is sent when it is reached, unless that send is not taken. -/
  eof : .eof ∈ sent ↔ EndReached upTo ∧ cause ≠ .channel

section Stops

variable {limit allowance : Option Nat} {steps upTo left : List Step} {cause : Cause}

/-- A session that stops otherwise than at a send has made all the sends that it wanted. -/
theorem FirstStop.takes (stop : FirstStop limit allowance steps upTo cause left)
    (other : cause ≠ .channel) : exceeds allowance (sentBy upTo) = false := by
  cases stop with
  | silence calm => exact calm.fits.2
  | @step before rest step cause cut calm fatal =>
      obtain ⟨shows, takes⟩ := calm.fits
      cases step with
      | message m => simpa using takes
      | input i =>
          rw [Step.cause?_input shows] at fatal
          split at fatal
          · exact absurd (Option.some.inj fatal).symm other
          · cases fatal

/-- A session that stops at a send has made all the sends that it wanted before it. -/
theorem FirstStop.refused (stop : FirstStop limit allowance steps upTo .channel left) :
    ∃ before i, upTo = before ++ [.input i] ∧ exceeds allowance (sentBy before) = false ∧
      exceeds allowance (sentBy upTo) = true := by
  cases stop with
  | @step before rest step cause cut calm fatal =>
      obtain ⟨shows, takes⟩ := calm.fits
      cases step with
      | message m =>
          rw [Step.cause?_message takes] at fatal
          split at fatal
          · cases fatal
          · split at fatal <;> cases fatal
      | input i =>
          rw [Step.cause?_input shows] at fatal
          split at fatal
          · exact ⟨before, i, rfl, takes, ‹_›⟩
          · cases fatal

/-- The sends of a session are those that it wanted, as far as the channel took them. -/
theorem FirstStop.sent (stop : FirstStop limit allowance steps upTo cause left) :
    (run { sink := { limit := limit }, allowance := allowance } steps).rest = left ∧
      (run { sink := { limit := limit }, allowance := allowance } steps).state.sent =
        allowed allowance (sentBy upTo) := by
  obtain ⟨last, ran, -⟩ := run_firstStop stop
  rw [ran]
  exact ⟨rfl, rfl⟩

theorem eof_not_mem_map_data (cut : List Bytes) : Sent.eof ∉ cut.map Sent.data := by
  intro member
  obtain ⟨p, -, same⟩ := List.mem_map.mp member
  cases same

/-- Sends of data and at most one more behind them. -/
theorem eof_once {cut : List Bytes} {last before after : List Sent}
    (single : last = [] ∨ last = [.eof]) (same : cut.map .data ++ last = before ++ .eof :: after) :
    .eof ∉ before ∧ after = [] := by
  obtain ⟨between, rfl, behind⟩ | ⟨between, front, behind⟩ := List.append_eq_append_iff.mp same
  · obtain rfl | rfl := single
    · exact absurd behind (by simp)
    · obtain ⟨rfl, rfl⟩ : between = [] ∧ after = [] := by
        cases between with
        | nil => simpa using behind
        | cons first between => exact absurd behind (by simp)
      rw [List.append_nil]
      exact ⟨eof_not_mem_map_data cut, rfl⟩
  · cases between with
    | nil =>
        rw [List.append_nil] at front
        rw [List.nil_append] at behind
        obtain rfl | rfl := single
        · cases behind
        · obtain ⟨-, ended⟩ := List.cons.inj behind
          exact ⟨front ▸ eof_not_mem_map_data cut, ended⟩
    | cons first between =>
        obtain ⟨rfl, -⟩ := List.cons.inj behind
        exact absurd (front ▸ List.mem_append_right before List.mem_cons_self)
          (eof_not_mem_map_data cut)

/-- A session that stops otherwise than at a send has forwarded all that was typed. -/
theorem FirstStop.forwarded_all (stop : FirstStop limit allowance steps upTo cause left)
    (other : cause ≠ .channel) :
    Forwarded allowance upTo cause (allowed allowance (sentBy upTo)) := by
  obtain ⟨typed, sizes⟩ := dataOf_sentBy upTo
  obtain ⟨last, wanted, reached⟩ := sentBy_eq upTo
  rw [allowed_of_not_exceeds (stop.takes other)]
  refine ⟨sizes, ⟨[], by rw [List.append_nil, typed], fun more => absurd rfl more⟩, ?_, ?_⟩
  · intro before after cut
    have single : last = [] ∨ last = [.eof] := (reached.imp And.left And.left).symm
    exact eof_once single (wanted.symm.trans cut)
  · rw [wanted]
    obtain ⟨rfl, ends⟩ | ⟨rfl, goesOn⟩ := reached
    · simp [ends, other]
    · simp [goesOn, eof_not_mem_map_data]

/-- The data behind all sends of the steps before the last one is the end of what that one
types. -/
theorem drop_dataOf_concat {before : List Step} {step : Step} {n : Nat}
    (early : (sentBy before).length ≤ n)
    (more : (dataOf (sentBy (before ++ [step]))).drop n ≠ []) :
    ∃ data, step = .input (.octets data) ∧
      ((dataOf (sentBy (before ++ [step]))).drop n).flatten <:+ data := by
  have passed : (dataOf (sentBy before)).length ≤ n :=
    Nat.le_trans (List.length_filterMap_le _ _) early
  rw [dataOf_sentBy_concat, List.drop_append, List.drop_eq_nil_of_le passed, List.nil_append]
    at more ⊢
  cases looks : inputOpenAfter before with
  | false => simp [looks] at more
  | true =>
      rw [looks, if_pos rfl] at more
      match step with
      | .input (.octets data) =>
          refine ⟨data, rfl, ((pieces data).take (n - (dataOf (sentBy before)).length)).flatten, ?_⟩
          rw [if_pos rfl, ← List.flatten_append, Step.typed, List.take_append_drop,
            (pieces_spec data).1]
      | .message m | .input .ended | .input (.failed text) =>
          simp [Step.typed, pieces_nil] at more

/-- A session that stops at a send has forwarded what was typed up to the piece it was for. -/
theorem FirstStop.forwarded_part (stop : FirstStop limit allowance steps upTo .channel left) :
    Forwarded allowance upTo .channel (allowed allowance (sentBy upTo)) := by
  obtain ⟨before, i, rfl, takes, beyond⟩ := stop.refused
  cases allowance with
  | none => cases beyond
  | some n =>
      simp only [exceeds, decide_eq_true_eq, decide_eq_false_iff_not, Nat.not_lt] at beyond takes
      have behind := @drop_dataOf_concat before (.input i) n takes
      obtain ⟨typed, sizes⟩ := dataOf_sentBy (before ++ [.input i])
      obtain ⟨last, wanted, reached⟩ := sentBy_eq (before ++ [.input i])
      generalize dataOf (sentBy (before ++ [.input i])) = cut at *
      have room : n ≤ cut.length := by
        rw [wanted, List.length_append, List.length_map] at beyond
        obtain ⟨rfl, -⟩ | ⟨rfl, -⟩ := reached
        · exact Nat.le_of_lt_succ beyond
        · exact Nat.le_of_lt beyond
      have sent : allowed (some n) (sentBy (before ++ [.input i])) = (cut.take n).map .data := by
        rw [allowed, wanted, List.take_append_of_le_length (by rwa [List.length_map]),
          List.map_take]
      rw [sent]
      refine ⟨?_, ⟨cut.drop n, ?_, fun more => ⟨rfl, ?_, ?_⟩⟩, ?_, ?_⟩
      · rw [dataOf_map_data]
        exact fun p member => sizes p (List.mem_of_mem_take member)
      · rw [dataOf_map_data, List.take_append_drop, typed]
      · rw [List.length_map, List.length_take, Nat.min_eq_left room]
      · obtain ⟨data, same, ending⟩ := behind more
        exact ⟨before, data, by rw [same], ending⟩
      · intro earlier later same
        rw [← List.append_nil (List.map _ _)] at same
        exact eof_once (.inl rfl) same
      · exact ⟨fun member => absurd member (eof_not_mem_map_data _), fun ends => absurd rfl ends.2⟩

theorem FirstStop.forwarded (stop : FirstStop limit allowance steps upTo cause left) :
    Forwarded allowance upTo cause (allowed allowance (sentBy upTo)) := by
  by_cases refused : cause = .channel
  · subst refused
    exact stop.forwarded_part
  · exact stop.forwarded_all refused

end Stops

/-! ## What a session logs -/

/-- What is left of a timeline some of whose steps have been looked at: the steps behind those,
and of the last of those what was not read of it. -/
inductive Leaves : List Step → List Step → List Step → Prop where
  | behind (looked rest : List Step) : Leaves (looked ++ rest) looked rest
  | within (before rest : List Step) (step : Step) (room : Option Nat) :
      Leaves (before ++ step :: rest) (before ++ [step]) (step.unread room ++ rest)

theorem Leaves.cons {steps looked left : List Step} (leaves : Leaves steps looked left)
    (step : Step) : Leaves (step :: steps) (step :: looked) left := by
  cases leaves with
  | behind => exact .behind (step :: looked) left
  | within before rest last room => exact .within (step :: before) rest last room

/-- A run from a state over a timeline, with the steps that it looks at and the sends that it
makes: one piece of work is logged for each. -/
structure Works (s : State) (steps looked : List Step) (sent : List Sent) : Prop where
  leaves : Leaves steps looked (run s steps).rest
  sends : (run s steps).state.sent = s.sent ++ sent
  logs : (run s steps).state.log = s.log ++ .replicate (looked.length + sent.length) .work

/-- Showing output neither sends nor logs anything, and whether input is looked at stays. -/
theorem State.output_apart (s : State) (data : Bytes) :
    (s.output data).1.sent = s.sent ∧ (s.output data).1.log = s.log ∧
      (s.output data).1.inputOpen = s.inputOpen := by
  simp only [State.output]
  split <;> exact ⟨rfl, rfl, rfl⟩

/-- One more step in front of a run. -/
theorem Works.cons {s s' : State} {step : Step} {steps looked : List Step}
    {early sent : List Sent} (works : Works s' steps looked sent)
    (goesOn : run s (step :: steps) = run s' steps) (sends : s'.sent = s.sent ++ early)
    (logs : s'.log = s.log ++ .work :: .replicate early.length .work) :
    Works s (step :: steps) (step :: looked) (early ++ sent) where
  leaves := by
    rw [goesOn]
    exact works.leaves.cons step
  sends := by rw [goesOn, works.sends, sends, List.append_assoc]
  logs := by
    rw [goesOn, works.logs, logs, List.append_assoc, ← List.replicate_succ,
      List.replicate_append_replicate, List.length_cons, List.length_append]
    exact congrArg (s.log ++ List.replicate · _) (by omega)

theorem Works.idle {s s' : State} {step : Step} {steps looked : List Step} {sent : List Sent}
    (works : Works s' steps looked sent) (goesOn : run s (step :: steps) = run s' steps)
    (same : s'.sent = s.sent) (logs : s'.log = s.work.log) :
    Works s (step :: steps) (step :: looked) sent :=
  show Works s (step :: steps) (step :: looked) ([] ++ sent) from
    works.cons goesOn (by rw [same, List.append_nil]) logs

/-- A run that its first step ends. -/
theorem Works.single {s s' : State} {step : Step} {steps left : List Step} {f : Option Failure}
    {sent : List Sent} (ends : run s (step :: steps) = ⟨s', left, f⟩)
    (leaves : Leaves (step :: steps) [step] left) (sends : s'.sent = s.sent ++ sent)
    (logs : s'.log = s.log ++ .work :: .replicate sent.length .work) :
    Works s (step :: steps) [step] sent where
  leaves := by
    rw [ends]
    exact leaves
  sends := by rw [ends, sends]
  logs := by rw [ends, logs, List.length_singleton, Nat.add_comm, List.replicate_succ]

/-- **Every run logs its work.** -/
theorem exists_works (s : State) (steps : List Step) :
    ∃ looked sent, Works s steps looked sent := by
  induction steps generalizing s with
  | nil => exact ⟨[], [], .behind [] [], (List.append_nil _).symm, (List.append_nil _).symm⟩
  | cons step rest ih =>
      cases step with
      | message m =>
          have idle (s' : State) (same : s'.sent = s.sent) (logs : s'.log = s.work.log)
              (goesOn : run s (.message m :: rest) = run s' rest) :
              ∃ looked sent, Works s (.message m :: rest) looked sent := by
            obtain ⟨looked, sent, works⟩ := ih s'
            exact ⟨_, _, works.idle goesOn same logs⟩
          cases m with
          | stdout data | stderr data =>
              obtain ⟨unsent, unlogged, -⟩ := s.work.output_apart data
              rcases shows : s.work.output data with ⟨s', shown⟩
              rw [shows] at unsent unlogged
              cases shown with
              | true => exact idle s' unsent unlogged (by simp only [run, shows])
              | false =>
                  exact ⟨_, [], .single (by simp only [run, shows]; rfl) (.behind [_] rest)
                    (by rw [unsent, List.append_nil]; rfl) unlogged⟩
          | exitStatus code => exact idle { s.work with exit := some code } rfl rfl rfl
          | exitSignal | notice => exact idle s.work rfl rfl rfl
          | close => exact ⟨_, [], .single rfl (.behind [_] rest) (List.append_nil _).symm rfl⟩
      | input i =>
          cases looks : s.inputOpen with
          | false =>
              have shut : s.work.inputOpen = false := looks
              obtain ⟨looked, sent, works⟩ := ih s.work
              exact ⟨_, _, works.idle (by simp [run, shut]) rfl rfl⟩
          | true =>
              have runs := run_input_open looks i rest
              by_cases refused : exceeds s.allowance (Step.input i).sends = true
              · rw [if_pos refused] at runs
                exact ⟨_, _, .single runs (.within [] rest _ _) rfl rfl⟩
              · rw [if_neg refused] at runs
                obtain ⟨looked, sent, works⟩ := ih (s.sending i)
                exact ⟨_, _, works.cons runs rfl rfl⟩

/-! ## When reading what is typed fails -/

/-- Whether a step is something that the far side sends. -/
def Step.isMessage : Step → Bool
  | .message _ => true
  | .input _ => false

/-- Sessions that differ at most in whether input is still looked at, in how many steps were
looked at, and in the input that is left. -/
structure Alike (e e' : End) : Prop where
  state : e.state = { e'.state with inputOpen := e.state.inputOpen, log := e.state.log }
  failure : e.failure = e'.failure
  rest : e.rest.filter Step.isMessage = e'.rest.filter Step.isMessage

/-- Output is shown and tracked whether or not input is looked at, and whatever is logged. -/
theorem State.output_beside (s : State) (looks : Bool) (log : List Terminal.Event) (data : Bytes) :
    { s with inputOpen := looks, log := log }.output data =
      ({ (s.output data).1 with inputOpen := looks, log := log }, (s.output data).2) := by
  simp only [State.output]
  split <;> rfl

/-- A session that looks at no more input does what one does that gets none, and sends nothing. -/
theorem run_shut {s : State} (shut : s.inputOpen = false) (looks : Bool)
    (log : List Terminal.Event) (rest : List Step) :
    Alike (run s rest)
        (run { s with inputOpen := looks, log := log } (rest.filter Step.isMessage)) ∧
      (run s rest).state.sent = s.sent := by
  induction rest generalizing s log with
  | nil => exact ⟨⟨by simp [run], rfl, rfl⟩, rfl⟩
  | cons step rest ih =>
      have shut' : s.work.inputOpen = false := shut
      cases step with
      | input i =>
          have passed : run s (.input i :: rest) = run s.work rest := by simp [run, shut']
          rw [passed]
          exact ih shut' log
      | message m =>
          rw [List.filter_cons_of_pos rfl]
          have beside : ({ s with inputOpen := looks, log := log } : State).work =
              { s.work with inputOpen := looks, log := log ++ [.work] } := rfl
          cases m with
          | stdout data | stderr data =>
              obtain ⟨unsent, -, still⟩ := s.work.output_apart data
              simp only [run, beside, State.output_beside]
              generalize s.work.output data = out at still unsent ⊢
              obtain ⟨s', shown⟩ := out
              cases shown with
              | true =>
                  obtain ⟨alike, same⟩ := ih (still.trans shut') (log ++ [.work])
                  exact ⟨alike, same.trans unsent⟩
              | false => exact ⟨⟨by simp, rfl, by simp⟩, unsent⟩
          | exitStatus code => exact ih (s := { s.work with exit := some code }) shut' _
          | exitSignal | notice => exact ih shut' _
          | close => exact ⟨⟨by simp [run, State.work], rfl, by simp [run]⟩, rfl⟩

/-- A session over some steps either goes on behind them or has stopped before it gets there. -/
theorem run_append (s : State) (before : List Step) :
    (∀ rest, run s (before ++ rest) = run (run s before).state rest) ∨
      ∀ rest, run s (before ++ rest) =
        ⟨(run s before).state, (run s before).rest ++ rest, (run s before).failure⟩ := by
  induction before generalizing s with
  | nil => exact .inl fun rest => rfl
  | cons step before ih =>
      cases step with
      | message m =>
          cases m with
          | stdout data | stderr data =>
              simp only [List.cons_append, run]
              rcases s.work.output data with ⟨s', shown⟩
              cases shown with
              | true => exact ih s'
              | false => exact .inr fun rest => rfl
          | exitStatus code => exact ih { s.work with exit := some code }
          | exitSignal | notice => exact ih s.work
          | close => exact .inr fun rest => rfl
      | input i =>
          simp only [List.cons_append]
          cases looks : s.inputOpen with
          | false =>
              have shut : s.work.inputOpen = false := looks
              have passed : ∀ rest, run s (.input i :: rest) = run s.work rest := by
                simp [run, shut]
              simp only [passed]
              exact ih s.work
          | true =>
              simp only [run_input_open looks]
              split
              · exact .inr fun rest => by rw [List.append_assoc]
              · exact ih (s.sending i)

/-- A session in which reading the input fails behind some steps. -/
theorem run_failed (s : State) (before : List Step) (text : String) (rest : List Step) :
    Alike (run s (before ++ .input (.failed text) :: rest))
        (run s (before ++ rest.filter Step.isMessage)) ∧
      (run s (before ++ .input (.failed text) :: rest)).state.sent = (run s before).state.sent := by
  obtain goesOn | stopped := run_append s before
  · rw [goesOn, goesOn]
    generalize (run s before).state = s'
    have failed : run s' (.input (.failed text) :: rest) =
        run { s'.work with inputOpen := false } rest := by
      obtain ⟨sink, last, exit, inputOpen, sent, allowance, log⟩ := s'
      cases inputOpen <;> simp [run, State.work]
    rw [failed]
    exact run_shut (s := { s'.work with inputOpen := false }) rfl s'.inputOpen s'.log rest
  · rw [stopped, stopped]
    refine ⟨⟨rfl, rfl, ?_⟩, rfl⟩
    have typed : ¬(Step.input (.failed text)).isMessage = true := Bool.false_ne_true
    simp only [List.filter_append, List.filter_cons_of_neg typed, List.filter_filter, Bool.and_self]

/-! ## Every timeline -/

/-- Where a session under a terminal stands afterwards: where its run ends, unless raw mode is
refused and the session does not begin. -/
theorem drive_state (t : Terminal) (line : String) (s : State) (steps : List Step) :
    (drive t line (s, steps)).2.1 =
      if t.isTerminal && t.failsEnabling then (s, steps)
      else ((run s steps).state, (run s steps).rest) := by
  by_cases refused : (t.isTerminal && t.failsEnabling) = true
  · rw [if_pos refused]
    rw [Bool.and_eq_true] at refused
    simp only [drive, conduct, Terminal.withRawMode, refused.1, refused.2, if_true]
  · rw [if_neg refused]
    have enters : t.isTerminal = true → t.failsEnabling = false := by simpa using refused
    rw [drive_entered enters]

/-- **What is typed is sent once, and its end at most once.** Over every timeline with every limit
on what the sink accepts and on how many sends the channel takes, there is a first stop, and
what has been sent is what was typed up to it (`Forwarded`). Once reading the input fails
nothing more is sent, and the session goes on as one does in which nothing more is typed. -/
theorem input_sent_once (limit allowance : Option Nat) (steps : List Step) :
    let start : State := { sink := { limit := limit }, allowance := allowance }
    let e := run start steps
    (∃ upTo cause left, FirstStop limit allowance steps upTo cause left) ∧
    (∀ upTo cause left, FirstStop limit allowance steps upTo cause left →
      e.rest = left ∧ Forwarded allowance upTo cause e.state.sent) ∧
    (∀ before text rest, steps = before ++ .input (.failed text) :: rest →
      e.state.sent = (run start before).state.sent ∧
      Alike e (run start (before ++ rest.filter Step.isMessage))) ∧
    ∀ (t : Terminal) (line : String), (drive t line (start, steps)).2.1 =
      if t.isTerminal && t.failsEnabling then (start, steps) else (e.state, e.rest) := by
  intro start e
  refine ⟨exists_firstStop Calm.nil steps, fun upTo cause left stop => ?_, ?_, ?_⟩
  · obtain ⟨looked, sent⟩ := stop.sent
    refine ⟨looked, ?_⟩
    rw [sent]
    exact stop.forwarded
  · rintro before text rest rfl
    exact (run_failed start before text rest).symm
  · exact fun t line => drive_state t line start steps

/-- Reading the input fails before its end is reached, between two messages. -/
theorem input_sent_once_reading_fails :
    let typing : List Step := [.input (.octets [104, 105]), .message (.stdout [36])]
    let steps := typing ++ .input (.failed "gone") ::
      [.input .ended, .message (.stderr [33]), .message .close]
    FirstStop (some 2) (some 1) steps steps .close [] ∧
      Forwarded (some 1) steps .close [.data [104, 105]] ∧
      Alike (run { sink := { limit := some 2 }, allowance := some 1 } steps)
        (run { sink := { limit := some 2 }, allowance := some 1 }
          (typing ++ [.message (.stderr [33]), .message .close])) := by
  intro typing steps
  have calm : Calm (some 2) (some 1) (typing ++ [.input (.failed "gone"), .input .ended,
      .message (.stderr [33])]) :=
    ((((Calm.nil.concat (by decide)).concat (by decide)).concat (by decide)).concat
      (by decide)).concat (by decide)
  have stop : FirstStop (some 2) (some 1) steps steps .close [] := .step rfl calm (by decide)
  obtain ⟨-, forwarded, failed, -⟩ := input_sent_once (some 2) (some 1) steps
  exact ⟨stop, (forwarded _ _ _ stop).2, (failed typing "gone" _ rfl).2⟩

end ComposeSite.Session
