/-
# ComposeSite.Proofs.Session.Remote -- the first stop of a remote session

What a session has shown, sent and been told is a function of the steps it has looked at
(`shownBy`, `sentBy`, `exitBy`).  A step ends the session in its place on the timeline
for one of the reasons of `Cause`, and a timeline none of whose steps does is `Calm`.

Over a calm timeline the state is the function `State.after` of the steps
(`run_calm`, from `run_harmless`); at the first step that is a cause the run ends
(`run_fatal`).  `drive_first_stop` puts these together: the first stop alone decides what was
shown, what is left, and the result.
-/
import ComposeSite.Proofs.Output.LastLine
import ComposeSite.Proofs.Output.Stream
import ComposeSite.Session.Remote

set_option autoImplicit false

namespace ComposeSite.Session

open Output

/-! ## What steps bring -/

/-- The octets that a step brings from the far side. -/
def Step.shown : Step → Bytes
  | .message (.stdout data) => data
  | .message (.stderr data) => data
  | _ => []

/-- The exit status that a step brings. -/
def Step.status? : Step → Option Nat
  | .message (.exitStatus code) => some code
  | _ => none

/-- Whether no more input is looked at after a step. -/
def Step.endsInput : Step → Bool
  | .input (.octets (_ :: _)) => false
  | .input _ => true
  | .message _ => false

/-- Octets in pieces of the size that is read from the terminal at once; only the last may be
shorter. -/
def pieces (data : Bytes) : List Bytes :=
  (List.range ((data.length + (pieceSize - 1)) / pieceSize)).map fun i =>
    (data.drop (i * pieceSize)).take pieceSize

/-- What a step sends while input is still looked at. -/
def Step.sends : Step → List Sent
  | .input (.octets (b :: bs)) => (pieces (b :: bs)).map .data
  | .input (.octets []) => [.eof]
  | .input .ended => [.eof]
  | .input (.failed _) => []
  | .message _ => []

/-- The octets of both kinds that steps bring, in the order of arrival. -/
def shownBy (steps : List Step) : Bytes := steps.flatMap Step.shown

/-- The last exit status that steps bring. -/
def exitBy (steps : List Step) : Option Nat := (steps.filterMap Step.status?).getLast?

/-- Whether input is still looked at after steps. -/
def inputOpenAfter (steps : List Step) : Bool := !steps.any Step.endsInput

/-- What steps send, up to the one that ends the input. -/
def sentBy : List Step → List Sent
  | [] => []
  | step :: rest => step.sends ++ if step.endsInput then [] else sentBy rest

@[simp]
theorem Step.shown_input (i : Input) : (Step.input i).shown = [] := rfl

@[simp]
theorem Step.status?_input (i : Input) : (Step.input i).status? = none := rfl

@[simp]
theorem Step.endsInput_message (m : Message) : (Step.message m).endsInput = false := rfl

@[simp]
theorem Step.sends_message (m : Message) : (Step.message m).sends = [] := rfl

section Concat

variable (before : List Step) (step : Step)

@[simp]
theorem shownBy_concat : shownBy (before ++ [step]) = shownBy before ++ step.shown := by
  simp [shownBy]

@[simp]
theorem exitBy_concat : exitBy (before ++ [step]) = step.status?.or (exitBy before) := by
  rw [exitBy, List.filterMap_append, List.getLast?_append, exitBy]
  cases found : step.status? with
  | none => simp [found]
  | some code => simp [found]

@[simp]
theorem inputOpenAfter_concat :
    inputOpenAfter (before ++ [step]) = (inputOpenAfter before && !step.endsInput) := by
  simp [inputOpenAfter]

theorem sentBy_append (rest : List Step) :
    sentBy (before ++ rest) =
      sentBy before ++ if inputOpenAfter before then sentBy rest else [] := by
  induction before with
  | nil => simp [sentBy, inputOpenAfter]
  | cons first before ih =>
      rw [List.cons_append, sentBy, ih, sentBy]
      cases ended : first.endsInput with
      | true => simp [inputOpenAfter, ended]
      | false => simp [inputOpenAfter, ended]

@[simp]
theorem sentBy_concat :
    sentBy (before ++ [step]) =
      sentBy before ++ if inputOpenAfter before then step.sends else [] := by
  rw [sentBy_append]
  simp [sentBy]

end Concat

/-! ## Why a session stops -/

/-- What ends a session: the far side closes it, nothing more happens, there is more to show
than the sink accepts, or more to send than the channel takes. -/
inductive Cause where
  | close
  | silence
  | sink
  | channel
  deriving DecidableEq, Repr

/-- The failure that a session ends with. -/
def Cause.failure? : Cause → Option Failure
  | close => none
  | silence => none
  | sink => some (.io (.other sinkFull))
  | channel => some channelClosed

/-- What a session comes to: a failure whatever was said of the exit status, or what the
last exit status means. -/
def verdict (line : String) (upTo : List Step) (cause : Cause) : Except Failure String :=
  match cause.failure?, exitBy upTo with
  | some failure, _ => .error failure
  | none, some code =>
      if code = 0 ∨ code = 130 then .ok (lastLine (shownBy upTo))
      else .error (.remoteExit line code)
  | none, none => .error (.command line .noStatus)

section Stops

variable (limit allowance : Option Nat)

/-- Whether a step ends a session that has looked at the steps before it. -/
def Step.cause? (before : List Step) (step : Step) : Option Cause :=
  if step = .message .close then some .close
  else if exceeds limit (shownBy (before ++ [step])) then some .sink
  else if exceeds allowance (sentBy (before ++ [step])) then some .channel
  else none

/-- No step ends the session after the ones before it. -/
def Calm (steps : List Step) : Prop :=
  ∀ before step rest, steps = before ++ step :: rest → step.cause? limit allowance before = none

/-- The typed octets of a step behind the piece whose send is refused, as a step of their
own, when the channel takes so many sends more. -/
def Step.unread (room : Option Nat) : Step → List Step
  | .input (.octets data) =>
      let left := data.drop ((room.getD 0 + 1) * pieceSize)
      if left.isEmpty then [] else [.input (.octets left)]
  | _ => []

/-- How many sends the channel takes after some steps. -/
def roomAfter (steps : List Step) : Option Nat := allowance.map (· - (sentBy steps).length)

/-- The first stop of a timeline: the steps up to and with it, the cause, and the steps that
are not looked at. -/
inductive FirstStop (steps : List Step) : List Step → Cause → List Step → Prop where
  | silence (calm : Calm limit allowance steps) : FirstStop steps steps .silence []
  | step {before rest : List Step} {step : Step} {cause : Cause}
      (cut : steps = before ++ step :: rest) (calm : Calm limit allowance before)
      (fatal : step.cause? limit allowance before = some cause) :
      FirstStop steps (before ++ [step]) cause (step.unread (roomAfter allowance before) ++ rest)

end Stops

/-! ## Sending -/

theorem pieces_nil : pieces [] = [] := rfl

theorem pieces_of_ne_nil {data : Bytes} (some : data ≠ []) :
    pieces data = data.take pieceSize :: pieces (data.drop pieceSize) := by
  have positive : 0 < data.length := List.length_pos_iff.mpr some
  have count : (data.length + (pieceSize - 1)) / pieceSize =
      ((data.drop pieceSize).length + (pieceSize - 1)) / pieceSize + 1 := by
    simp only [pieceSize, List.length_drop]
    omega
  rw [pieces, count, List.range_succ_eq_map, List.map_cons, List.map_map, Nat.zero_mul,
    List.drop_zero, pieces]
  refine congrArg _ (List.map_congr_left fun i _ => ?_)
  rw [Function.comp_apply, List.drop_drop, Nat.succ_mul, Nat.add_comm]

/-- A send that the channel does not take leaves the session as it was. -/
theorem State.send_eq (s : State) (x : Sent) :
    s.send x =
      if exceeds s.allowance [x] then .error channelClosed
      else .ok { s.work with sent := s.sent ++ [x], allowance := s.allowance.map (· - 1) } := by
  rw [State.send]
  rcases s with ⟨sink, last, exit, inputOpen, sent, allowance, log⟩
  rcases allowance with _ | _ | n <;> simp [exceeds, State.work]

/-- Sending octets piece by piece: as many pieces go out as the channel takes, and the first
that it does not take fails. -/
theorem State.sendPieces_eq {fuel : Nat} (s : State) {data : Bytes} (enough : data.length ≤ fuel) :
    s.sendPieces fuel data =
      ({ s with
          sent := s.sent ++ (allowed s.allowance (pieces data)).map .data
          allowance := s.allowance.map (· - (pieces data).length)
          log := s.log ++ List.replicate (allowed s.allowance (pieces data)).length .work },
        if exceeds s.allowance (pieces data) then
          some (channelClosed, data.drop ((s.allowance.getD 0 + 1) * pieceSize))
        else none) := by
  induction fuel generalizing s data with
  | zero =>
      obtain rfl : data = [] := List.length_eq_zero_iff.mp (by omega)
      rcases s with ⟨sink, last, exit, inputOpen, sent, allowance, log⟩
      cases allowance <;> simp [sendPieces, pieces_nil, allowed, exceeds]
  | succ fuel ih =>
      by_cases empty : data = []
      · subst empty
        rcases s with ⟨sink, last, exit, inputOpen, sent, allowance, log⟩
        cases allowance <;> simp [sendPieces, pieces_nil, allowed, exceeds]
      · have shorter : (data.drop pieceSize).length ≤ fuel := by
          simp only [List.length_drop, pieceSize]
          omega
        have behind : ∀ n, (data.drop pieceSize).drop (n * pieceSize) =
            data.drop ((n + 1) * pieceSize) := by
          intro n
          rw [List.drop_drop, Nat.succ_mul, Nat.add_comm]
        have cut := pieces_of_ne_nil empty
        rw [sendPieces, if_neg (by simpa using empty), State.send_eq]
        rcases s with ⟨sink, last, exit, inputOpen, sent, _ | _ | n, log⟩
        -- A channel without a limit, one that takes nothing more, and one that takes this piece.
        · simp only [exceeds, Option.map_none, Bool.false_eq_true, if_false, ih _ shorter, cut,
            State.work, allowed, List.map_cons, List.append_assoc, List.singleton_append,
            List.length_cons, List.replicate_succ]
        · simp [exceeds, allowed, cut]
        · have room : exceeds (some (n + 1)) [Sent.data (data.take pieceSize)] = false := by
            simp [exceeds]
          simp only [room, Bool.false_eq_true, if_false, ih _ shorter]
          simp only [State.work, Option.map_some, Nat.add_sub_cancel, cut, allowed, exceeds,
            List.take_succ_cons, List.map_cons, List.append_assoc, List.singleton_append,
            List.length_cons, List.replicate_succ, Nat.add_lt_add_iff_right,
            Nat.add_sub_add_right, Option.getD_some, behind]

/-! ## One step -/

section Runs

variable {limit allowance : Option Nat} {before : List Step}

/-- The state of a session that has looked at some steps. -/
def State.after (limit allowance : Option Nat) (steps : List Step) : State where
  sink := .after limit (shownBy steps)
  last := ({} : LastLine).push (shownBy steps)
  exit := exitBy steps
  inputOpen := inputOpenAfter steps
  sent := allowed allowance (sentBy steps)
  allowance := roomAfter allowance steps
  log := .replicate (steps.length + (allowed allowance (sentBy steps)).length) .work

theorem State.after_nil :
    State.after limit allowance [] =
      { sink := { limit := limit }, allowance := allowance } := by
  cases limit <;> cases allowance <;>
    simp [State.after, roomAfter, shownBy, sentBy, exitBy, inputOpenAfter, allowed, Sink.after,
      LastLine.push_nil]

theorem State.output_after (shows : exceeds limit (shownBy before) = false) (data : Bytes) :
    (State.after limit allowance before).work.output data =
      if exceeds limit (shownBy before ++ data) then
        ({ (State.after limit allowance before).work with
          sink := .after limit (shownBy before ++ data) }, false)
      else
        ({ (State.after limit allowance before).work with
          sink := .after limit (shownBy before ++ data)
          last := ({} : LastLine).push (shownBy before ++ data) }, true) := by
  simp only [State.output, State.work, State.after, Sink.write_after shows, LastLine.push_push]
  cases exceeds limit (shownBy before ++ data) <;> rfl

/-- One more step that sends nothing. -/
theorem State.work_after :
    (State.after limit allowance before).work = { State.after limit allowance before with
      log := .replicate (before.length + 1 + (allowed allowance (sentBy before)).length) .work } := by
  rw [State.work, State.after, ← List.replicate_succ', Nat.add_right_comm]

/-- What one message does. -/
theorem run_message (shows : exceeds limit (shownBy before) = false) (m : Message)
    (rest : List Step) :
    run (State.after limit allowance before) (.message m :: rest) =
      if m = .close then ⟨State.after limit allowance (before ++ [.message m]), rest, none⟩
      else if exceeds limit (shownBy (before ++ [.message m])) then
        ⟨{ State.after limit allowance (before ++ [.message m]) with
            last := (State.after limit allowance before).last },
          rest, some (.io (.other sinkFull))⟩
      else run (State.after limit allowance (before ++ [.message m])) rest := by
  cases m with
  | stdout data | stderr data =>
      simp only [run, State.output_after shows, shownBy_concat, Step.shown]
      simp only [State.work_after]
      cases exceeds limit (shownBy before ++ data) <;>
        simp [State.after, roomAfter, Step.shown, Step.status?]
  | exitStatus code | exitSignal | notice | close =>
      simp only [run, State.work_after]
      simp [State.after, roomAfter, Step.shown, Step.status?, shows]

/-- A session that has looked at an input and sent what the channel still takes of what
the input sends. -/
def State.sending (s : State) (i : Input) : State :=
  let sends := (Step.input i).sends
  { s with
    inputOpen := !(Step.input i).endsInput
    sent := s.sent ++ allowed s.allowance sends
    allowance := s.allowance.map (· - sends.length)
    log := s.log ++ .work :: .replicate (allowed s.allowance sends).length .work }

/-- What one input does to a session that looks at it. -/
theorem run_input_open {s : State} (looks : s.inputOpen = true) (i : Input) (rest : List Step) :
    run s (.input i :: rest) =
      if exceeds s.allowance (Step.input i).sends then
        ⟨s.sending i, (Step.input i).unread s.allowance ++ rest, some channelClosed⟩
      else run (s.sending i) rest := by
  obtain ⟨sink, last, exit, inputOpen, sent, room, log⟩ := s
  obtain rfl : inputOpen = true := looks
  match i with
  | .octets (b :: bs) =>
      simp only [run, State.work, Bool.not_true, Bool.false_eq_true, if_false, State.sending,
        Step.sends, State.sendPieces_eq _ (Nat.le_refl _), exceeds_map, allowed_map,
        List.length_map, Step.endsInput, Bool.not_false, List.append_assoc, List.singleton_append]
      cases exceeds room (pieces (b :: bs)) with
      | true =>
          simp only [if_true, Step.unread]
          split <;> rfl
      | false => rfl
  | .octets [] | .ended =>
      simp only [run, State.work, Bool.not_true, Bool.false_eq_true, if_false, State.send_eq,
        State.sending, Step.sends, Step.endsInput, Step.unread]
      rcases room with _ | _ | n <;> simp [exceeds, allowed]
  | .failed text =>
      have quiet : exceeds room ([] : List Sent) = false := by cases room <;> rfl
      have nothing : allowed room ([] : List Sent) = [] := by cases room <;> simp [allowed]
      simp [run, State.work, State.sending, Step.sends, Step.endsInput, quiet, nothing]

theorem State.after_input (takes : exceeds allowance (sentBy before) = false)
    (looks : inputOpenAfter before = true) (i : Input) :
    State.after limit allowance (before ++ [.input i]) =
      (State.after limit allowance before).sending i := by
  have room : roomAfter allowance (before ++ [.input i]) =
      (roomAfter allowance before).map (· - (Step.input i).sends.length) := by
    rw [roomAfter, roomAfter, sentBy_concat, looks, if_pos rfl]
    cases allowance with
    | none => rfl
    | some n => simp only [Option.map_some, List.length_append, Nat.sub_add_eq]
  have logged : ∀ n, List.replicate (before.length + 1 + ((sentBy before).length + n))
      Terminal.Event.work =
        List.replicate (before.length + (sentBy before).length) .work ++
          .work :: .replicate n .work := by
    intro n
    rw [← List.replicate_succ, List.replicate_append_replicate]
    exact congrArg (List.replicate · _) (by omega)
  simp only [State.after, State.sending, room, shownBy_concat, exitBy_concat,
    inputOpenAfter_concat, sentBy_concat, looks, if_true, Step.shown_input, Step.status?_input,
    List.append_nil, Option.none_or, Bool.true_and, allowed_append takes,
    allowed_of_not_exceeds takes, List.length_append, List.length_singleton, logged]
  rfl

/-- What one input does. -/
theorem run_input (takes : exceeds allowance (sentBy before) = false) (i : Input)
    (rest : List Step) :
    run (State.after limit allowance before) (.input i :: rest) =
      if exceeds allowance (sentBy (before ++ [.input i])) then
        ⟨State.after limit allowance (before ++ [.input i]),
          (Step.input i).unread (roomAfter allowance before) ++ rest, some channelClosed⟩
      else run (State.after limit allowance (before ++ [.input i])) rest := by
  cases looks : inputOpenAfter before with
  | true =>
      rw [run_input_open looks, State.after_input takes looks, sentBy_concat, looks, if_pos rfl,
        exceeds_append takes]
      rfl
  | false =>
      have same : State.after limit allowance (before ++ [.input i]) =
          (State.after limit allowance before).work := by
        rw [State.work_after]
        simp [State.after, roomAfter, looks]
      have shut : (State.after limit allowance before).work.inputOpen = false := looks
      simp only [run, shut, Bool.not_false, if_true, same, sentBy_concat, looks,
        Bool.false_eq_true, if_false, List.append_nil, takes]

/-! ## The whole run -/

theorem Calm.nil : Calm limit allowance [] := by
  intro before step rest cut
  exact absurd cut (by simp)

/-- A calm timeline stays calm with one more step that is no cause. -/
theorem Calm.concat {step : Step} (calm : Calm limit allowance before)
    (harmless : step.cause? limit allowance before = none) :
    Calm limit allowance (before ++ [step]) := by
  intro earlier s rest cut
  -- The step looked at is either the new one or one of those before it.
  rcases List.eq_nil_or_concat rest with rfl | ⟨rest, final, rfl⟩
  · obtain ⟨same, last⟩ := List.append_inj' cut rfl
    obtain rfl : step = s := List.singleton_inj.mp last
    rw [← same]
    exact harmless
  · rw [List.concat_eq_append, ← List.cons_append, ← List.append_assoc] at cut
    exact calm earlier s rest (List.append_inj' cut rfl).1

theorem Calm.before_step {step : Step} {rest : List Step}
    (calm : Calm limit allowance (before ++ step :: rest)) :
    Calm limit allowance before ∧ step.cause? limit allowance before = none := by
  refine ⟨fun earlier s later cut => ?_, calm before step rest rfl⟩
  exact calm earlier s (later ++ step :: rest) (by simp [cut])

theorem Step.cause?_eq_none {step : Step} :
    step.cause? limit allowance before = none ↔
      step ≠ .message .close ∧ exceeds limit (shownBy (before ++ [step])) = false ∧
        exceeds allowance (sentBy (before ++ [step])) = false := by
  rw [Step.cause?]
  split
  · simp_all
  split
  · simp_all
  split <;> simp_all

/-- A timeline without a close that keeps to both limits is calm. -/
theorem Calm.of_fits {steps : List Step} (open_ : ∀ step ∈ steps, step ≠ .message .close)
    (shows : exceeds limit (shownBy steps) = false)
    (takes : exceeds allowance (sentBy steps) = false) : Calm limit allowance steps := by
  intro before step rest cut
  rw [List.append_cons] at cut
  subst cut
  rw [shownBy, List.flatMap_append] at shows
  rw [sentBy_append] at takes
  exact Step.cause?_eq_none.mpr
    ⟨open_ step (by simp), exceeds_append_left shows, exceeds_append_left takes⟩

/-- A calm timeline keeps to both limits. -/
theorem Calm.fits (calm : Calm limit allowance before) :
    exceeds limit (shownBy before) = false ∧ exceeds allowance (sentBy before) = false := by
  rcases List.eq_nil_or_concat before with rfl | ⟨earlier, step, rfl⟩
  · cases limit <;> cases allowance <;> simp [exceeds, shownBy, sentBy]
  · rw [List.concat_eq_append] at calm ⊢
    exact (Step.cause?_eq_none.mp calm.before_step.2).2

/-- A step that is no cause takes the state to the one for the steps and it. -/
theorem run_harmless {step : Step} (calm : Calm limit allowance before)
    (harmless : step.cause? limit allowance before = none) (rest : List Step) :
    run (State.after limit allowance before) (step :: rest) =
      run (State.after limit allowance (before ++ [step])) rest := by
  obtain ⟨shows, takes⟩ := calm.fits
  obtain ⟨open_, shows', takes'⟩ := Step.cause?_eq_none.mp harmless
  cases step with
  | message m =>
      have going : m ≠ .close := fun same => open_ (congrArg Step.message same)
      rw [run_message shows, if_neg going, shows', if_neg Bool.false_ne_true]
  | input i => rw [run_input takes, takes', if_neg Bool.false_ne_true]

theorem Step.cause?_message (takes : exceeds allowance (sentBy before) = false) (m : Message) :
    (Step.message m).cause? limit allowance before =
      if m = .close then some .close
      else if exceeds limit (shownBy (before ++ [.message m])) then some .sink
      else none := by
  have sends : exceeds allowance (sentBy (before ++ [.message m])) = false := by simpa using takes
  rw [Step.cause?, sends, if_neg Bool.false_ne_true]
  simp only [Step.message.injEq]

theorem Step.cause?_input (shows : exceeds limit (shownBy before) = false) (i : Input) :
    (Step.input i).cause? limit allowance before =
      if exceeds allowance (sentBy (before ++ [.input i])) then some .channel else none := by
  have shown : exceeds limit (shownBy (before ++ [.input i])) = false := by simpa using shows
  have other : Step.input i ≠ .message .close := by simp
  rw [Step.cause?, shown, if_neg other, if_neg Bool.false_ne_true]

/-- A step that is a cause ends the session; whatever is tracked of output that was not all
shown plays no part. -/
theorem run_fatal {step : Step} {cause : Cause} (calm : Calm limit allowance before)
    (fatal : step.cause? limit allowance before = some cause) (rest : List Step) :
    ∃ last, run (State.after limit allowance before) (step :: rest) =
        ⟨{ State.after limit allowance (before ++ [step]) with last := last },
          step.unread (roomAfter allowance before) ++ rest, cause.failure?⟩ ∧
      (cause.failure? = none → last = ({} : LastLine).push (shownBy (before ++ [step]))) := by
  obtain ⟨shows, takes⟩ := calm.fits
  cases step with
  | message m =>
      rw [Step.cause?_message takes] at fatal
      rw [run_message shows]
      by_cases closes : m = .close
      · rw [if_pos closes] at fatal ⊢
        obtain rfl : Cause.close = cause := Option.some.inj fatal
        exact ⟨_, rfl, fun _ => rfl⟩
      · rw [if_neg closes] at fatal ⊢
        by_cases full : exceeds limit (shownBy (before ++ [.message m])) = true
        · rw [if_pos full] at fatal ⊢
          obtain rfl : Cause.sink = cause := Option.some.inj fatal
          exact ⟨_, rfl, fun ends => by cases ends⟩
        · rw [if_neg full] at fatal
          cases fatal
  | input i =>
      rw [Step.cause?_input shows] at fatal
      rw [run_input takes]
      by_cases refused : exceeds allowance (sentBy (before ++ [.input i])) = true
      · rw [if_pos refused] at fatal ⊢
        obtain rfl : Cause.channel = cause := Option.some.inj fatal
        exact ⟨_, rfl, fun ends => by cases ends⟩
      · rw [if_neg refused] at fatal
        cases fatal

/-- **Over a calm timeline** the state is a function of the steps. -/
theorem run_calm {steps : List Step} (calm : Calm limit allowance (before ++ steps))
    (rest : List Step) :
    run (State.after limit allowance before) (steps ++ rest) =
      run (State.after limit allowance (before ++ steps)) rest := by
  induction steps generalizing before with
  | nil => rw [List.nil_append, List.append_nil]
  | cons step steps ih =>
      obtain ⟨sofar, harmless⟩ := calm.before_step
      rw [List.append_cons] at calm
      rw [List.cons_append, run_harmless sofar harmless, ih calm, ← List.append_cons]

/-- Every timeline has a first stop. -/
theorem exists_firstStop (calm : Calm limit allowance before) (steps : List Step) :
    ∃ upTo cause left, FirstStop limit allowance (before ++ steps) upTo cause left := by
  induction steps generalizing before with
  | nil =>
      rw [List.append_nil]
      exact ⟨before, .silence, [], .silence calm⟩
  | cons step rest ih =>
      cases met : step.cause? limit allowance before with
      | some cause => exact ⟨_, _, _, .step rfl calm met⟩
      | none =>
          have further := ih (calm.concat met)
          rwa [List.append_assoc, List.singleton_append] at further

/-- Where the first stop leaves a session. -/
theorem run_firstStop {steps upTo left : List Step} {cause : Cause}
    (stop : FirstStop limit allowance steps upTo cause left) :
    ∃ last, run { sink := { limit := limit }, allowance := allowance } steps =
        ⟨{ State.after limit allowance upTo with last := last }, left, cause.failure?⟩ ∧
      (cause.failure? = none → last = ({} : LastLine).push (shownBy upTo)) := by
  rw [← State.after_nil]
  cases stop with
  | silence calm =>
      have whole : run (State.after limit allowance []) (steps ++ []) =
          run (State.after limit allowance ([] ++ steps)) [] := run_calm calm []
      rw [List.append_nil, List.nil_append] at whole
      rw [whole]
      exact ⟨_, rfl, fun _ => rfl⟩
  | @step before rest step cause cut calm fatal =>
      have reached : run (State.after limit allowance []) (before ++ step :: rest) =
          run (State.after limit allowance ([] ++ before)) (step :: rest) := run_calm calm _
      rw [cut, reached, List.nil_append]
      exact run_fatal calm fatal rest

theorem withRawMode_entered {σ α : Type} {t : Terminal}
    (enters : t.isTerminal = true → t.failsEnabling = false) (work : Terminal.Work σ α) (s : σ) :
    (t.withRawMode work s).2 = (work s).2 := by
  rw [Terminal.withRawMode]
  by_cases terminal : t.isTerminal = true
  · rw [if_pos terminal, enters terminal, if_neg Bool.false_ne_true]
  · rw [if_neg terminal]

/-- With the terminal in raw mode, or none to put into it, a session is its run. -/
theorem drive_entered {t : Terminal} (enters : t.isTerminal = true → t.failsEnabling = false)
    (line : String) (s : State) (steps : List Step) :
    (drive t line (s, steps)).2 =
      (((run s steps).state, (run s steps).rest),
        match (run s steps).failure with
        | some failure => .error failure
        | none => outcome line (run s steps).state.exit (run s steps).state.last.finish) := by
  simp only [drive, conduct, withRawMode_entered enters, End.report]
  cases (run s steps).failure <;> simp only [bind, Except.bind]

theorem outcome_eq (line : String) (upTo : List Step) {cause : Cause}
    (ends : cause.failure? = none) :
    outcome line (exitBy upTo) (lastLine (shownBy upTo)) = verdict line upTo cause := by
  rw [verdict, ends]
  cases exitBy upTo <;> rfl

/-- What a session comes to at its first stop. -/
theorem drive_stopped {t : Terminal} (enters : t.isTerminal = true → t.failsEnabling = false)
    (line : String) {steps upTo left : List Step} {cause : Cause}
    (stop : FirstStop limit allowance steps upTo cause left) :
    ∃ state, (drive t line ({ sink := { limit := limit }, allowance := allowance }, steps)).2 =
        ((state, left), verdict line upTo cause) ∧
      state.sink = .after limit (shownBy upTo) := by
  obtain ⟨last, ran, tracked⟩ := run_firstStop stop
  rw [drive_entered enters, ran]
  refine ⟨_, Prod.ext rfl ?_, rfl⟩
  cases ends : cause.failure? with
  | some failure => simp only [verdict, ends]
  | none =>
      rw [tracked ends, LastLine.finish_push]
      exact outcome_eq line upTo ends

end Runs

/-- **The first stop decides.** Over every timeline with every limit on what the sink accepts
and on how many sends the channel takes, there is a first stop.  There the sink holds what its
limit allows of everything shown up to the stop, no step behind the stop has been looked at,
and the result is the failure of the stop or what the last exit status before it means. -/
theorem drive_first_stop {t : Terminal} (enters : t.isTerminal = true → t.failsEnabling = false)
    (line : String) (limit allowance : Option Nat) (steps : List Step) :
    (∃ upTo cause left, FirstStop limit allowance steps upTo cause left) ∧
    ∀ upTo cause left, FirstStop limit allowance steps upTo cause left →
      ∃ state, (drive t line ({ sink := { limit := limit }, allowance := allowance }, steps)).2 =
          ((state, left), verdict line upTo cause) ∧
        state.sink.accepted = allowed limit (shownBy upTo) := by
  refine ⟨exists_firstStop Calm.nil steps, fun upTo cause left stop => ?_⟩
  obtain ⟨state, driven, shown⟩ := drive_stopped enters line stop
  exact ⟨state, driven, by rw [shown, Sink.after_accepted]⟩

/-- The sink fills up after an exit status, in the middle of a message. -/
theorem drive_first_stop_sink_full :
    ∃ state, (drive { isTerminal := true } "up"
        ({ sink := { limit := some 3 }, allowance := some 1 },
          [.message (.stdout [104, 105]), .message (.exitStatus 0), .input (.octets [3]),
            .message (.stderr [33, 10]), .message .close])).2 =
        ((state, [.message .close]), .error (.io (.other sinkFull))) ∧
      state.sink.accepted = [104, 105, 33] := by
  have calm : Calm (some 3) (some 1)
      [.message (.stdout [104, 105]), .message (.exitStatus 0), .input (.octets [3])] :=
    ((Calm.nil.concat (by decide)).concat (by decide)).concat (by decide)
  have full : (Step.message (.stderr [33, 10])).cause? (some 3) (some 1)
      [.message (.stdout [104, 105]), .message (.exitStatus 0), .input (.octets [3])] =
        some .sink := by decide
  have enters : ({ isTerminal := true } : Terminal).isTerminal = true →
      ({ isTerminal := true } : Terminal).failsEnabling = false := fun _ => rfl
  exact (drive_first_stop enters "up" (some 3) (some 1) _).2 _ _ _ (.step rfl calm full)

end ComposeSite.Session
