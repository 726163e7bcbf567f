/-
# ComposeSite.Proofs.Exec.Run -- an exit code is given behind the output that belongs to it

An exec is created, started, followed and inspected, and each of these is done only if the one
before it has succeeded (`attend_uncreated`, `attend_unsent`, `attend_unstarted`,
`attend_started`).  Following it copies its output as if all of it had come at once
(`outcome`), whatever course the streams take; what it is given of its input is no part of how
it ends (`follow_eq`).
-/
import ComposeSite.Exec.Run
import ComposeSite.Proofs.Exec.Attached
import ComposeSite.Proofs.Program.Targets

set_option autoImplicit false

namespace ComposeSite

open Docker (Client Daemon Fed Request Started)
open Docker.Attach (badTarget sentTarget?)
open Output

namespace Exec

variable {client : Client} {o : Options} {c : Course} {exec : String} {s : Started} {w : World}
  {t : Trace}

/-! ## Following -/

theorem arrived_arrival {pieces : List Bytes} (nonempty : ∀ piece ∈ pieces, piece ≠ [])
    (broken : Option String) : arrived (arrival pieces broken) = pieces.flatten := by
  rw [arrival, arrived_chunks_append nonempty]
  cases broken with
  | none => exact List.append_nil _
  | some text => exact List.append_nil _

theorem fault?_arrival {pieces : List Bytes} (nonempty : ∀ piece ∈ pieces, piece ≠ [])
    (broken : Option String) : fault? (arrival pieces broken) = broken := by
  rw [arrival, fault?_chunks_append nonempty]
  cases broken with
  | none => rfl
  | some text => rfl

/-- What is to come of some output, and of the failure with which it breaks off: on a terminal,
standard output takes it as it is; otherwise both sinks take what splitting it gives them. -/
def outcome (tty : Bool) (stdout stderr : Sink) (output : Bytes) (broken : Option String) :
    Delivered :=
  if tty then
    ⟨(stdout.write output).1, stderr,
      if stdout.fits output then streamEnd broken else .error sinkFailure⟩
  else (demultiplex stdout stderr (arrival (whole output) broken)).delivered

/-- Output that breaks off is not all copied. -/
theorem outcome_ok {tty : Bool} {stdout stderr : Sink} {output : Bytes} {broken : Option String}
    (copied : (outcome tty stdout stderr output broken).result = .ok ()) : broken = none := by
  cases tty with
  | true =>
      simp only [outcome, if_true] at copied
      split at copied
      · cases broken with
        | none => rfl
        | some text => cases copied
      · cases copied
  | false =>
      have split : (demultiplex stdout stderr (arrival (whole output) broken)).result.isOk = true := by
        rw [outcome, if_neg Bool.false_ne_true, Split.delivered] at copied
        cases result : (demultiplex stdout stderr (arrival (whole output) broken)).result with
        | error f =>
            simp only [result] at copied
            cases copied
        | ok counts => rfl
      have ended := Copying.fault?_of_run_ok _ split
      rwa [fault?_arrival (whole_nonempty output)] at ended

/-- However output is cut, the same comes of it. -/
theorem finish_start (c : Course) (tty : Bool) (stdout stderr : Sink) (output : Bytes)
    (broken : Option String) :
    (Delivery.start tty stdout stderr (arrival (c.cut output) broken)).finish =
      outcome tty stdout stderr output broken := by
  have pieces := c.cut_nonempty output
  have brings : arrived (arrival (c.cut output) broken) = output := by
    rw [arrived_arrival pieces, c.cut_flatten]
  have ends := fault?_arrival pieces broken
  cases tty with
  | true =>
      simp only [Delivery.start, if_true, Delivery.finish, copy_written, brings, ends, outcome]
  | false =>
      refine congrArg Split.delivered (demultiplex_arrived ?_ ?_)
      · rw [brings, arrived_arrival (whole_nonempty output), whole_flatten]
      · rw [ends, fault?_arrival (whole_nonempty output)]

/-- The input of an exec is copied to it: it is attached, there is some, and the exec can be
given it. -/
def Given (o : Options) (c : Course) (s : Started) (reads : List Read) : Prop :=
  o.attachStdin = true ∧ s.switched = true ∧ c.input = some reads

/-- An exec never comes to an end: it waits for input, and none is copied to it. -/
def Endless (d : Daemon) (o : Options) (c : Course) (s : Started) : Prop :=
  d.execWaits = true ∧ ∀ reads, ¬ Given o c s reads

/-- What an exec is given: nothing if no input is copied to it; otherwise a start of what the
input's reads bring. If it waits, that is all that it takes of it, and is closed behind it. -/
structure Feeds (d : Daemon) (o : Options) (c : Course) (s : Started) (fed : Fed) : Prop where
  awaited : fed.awaited = d.execWaits
  detached : (∀ reads, ¬ Given o c s reads) → fed.octets = [] ∧ fed.closed = false
  start : ∀ reads, Given o c s reads → fed.octets <+: arrived reads
  full : ∀ reads, Given o c s reads → d.execWaits = true →
    fed.octets = allowed c.room (arrived reads) ∧ fed.closed = true

theorem pump?_given {reads : List Read} (given : Given o c s reads) :
    pump? o c s = some { reads, given := { limit := c.room } } := by
  obtain ⟨attached, switched, input⟩ := given
  rw [pump?, attached, switched, input]
  rfl

theorem pump?_none (detached : ∀ reads, ¬ Given o c s reads) : pump? o c s = none := by
  rw [pump?]
  split
  · rename_i both
    obtain ⟨attached, switched⟩ := Bool.and_eq_true_iff.mp both
    cases input : c.input with
    | none => rfl
    | some reads => exact absurd ⟨attached, switched, input⟩ (detached reads)
  · rfl

theorem allGiven_given {a : Attached} {reads : List Read} (pumping : a.pump = pump? o c s)
    (given : Given o c s reads) : a.allGiven = allowed c.room (arrived reads) := by
  rw [Attached.allGiven, pumping, pump?_given given]
  show ((Pump.drain ⟨c.room, []⟩ reads).given).accepted = _
  rw [(Pump.drain_written _ _).1]
  cases c.room with
  | none => rfl
  | some n => rfl

/-- What following an exec leaves when all of its output has been copied. -/
theorem follow_delivered {d : Delivered} {attached : Attached}
    (start : attached = ⟨client.daemon.execWaits, pump? o c s, .start o.tty t.stdout t.stderr
      (arrival (c.cut s.output) (breakOff client.daemon s))⟩)
    (reached : (attached.run c.schedule).settle.delivery.delivered? = some d) :
    follow client o c exec s w t = (d.result, { t.followed (attached.run c.schedule).settle.fed with
      stdout := d.stdout, stderr := d.stderr }) := by
  subst start
  simp only [follow, reached]

/-- What following an exec leaves that never comes to an end. -/
theorem follow_undelivered {attached : Attached}
    (start : attached = ⟨client.daemon.execWaits, pump? o c s, .start o.tty t.stdout t.stderr
      (arrival (c.cut s.output) (breakOff client.daemon s))⟩)
    (never : (attached.run c.schedule).settle.delivery.delivered? = none) :
    follow client o c exec s w t = (.error (.attach exec .endless),
      t.followed (attached.run c.schedule).settle.fed) := by
  subst start
  simp only [follow, never]

/-- **Following an exec** ends with what is to come of its output, unless the exec never comes to
an end; its input is copied to it meanwhile. -/
theorem follow_eq (client : Client) (o : Options) (c : Course) (exec : String) (s : Started)
    (w : World) (t : Trace) :
    ∃ fed, Feeds client.daemon o c s fed ∧
      (Endless client.daemon o c s → follow client o c exec s w t =
        (.error (.attach exec .endless), t.followed fed)) ∧
      (¬ Endless client.daemon o c s →
        let all := outcome o.tty t.stdout t.stderr s.output (breakOff client.daemon s)
        follow client o c exec s w t = (all.result,
          { t.followed fed with stdout := all.stdout, stderr := all.stderr })) := by
  obtain ⟨attached, start⟩ : ∃ attached : Attached, attached = ⟨client.daemon.execWaits,
    pump? o c s, .start o.tty t.stdout t.stderr
      (arrival (c.cut s.output) (breakOff client.daemon s))⟩ := ⟨_, rfl⟩
  have fresh : attached.delivery.delivered? = none := by
    rw [start]
    exact Delivery.start_unfinished ..
  have pumping : attached.pump = pump? o c s := congrArg Attached.pump start
  have waiting : attached.waits = client.daemon.execWaits := congrArg Attached.waits start
  obtain ⟨reached, awaited, begins, full, unfed⟩ := attached.settle_run fresh c.schedule
  refine ⟨(attached.run c.schedule).settle.fed, ⟨awaited.trans waiting, fun detached => ?_,
    fun reads given => ?_, fun reads given waits => ?_⟩, fun never => ?_, fun ends => ?_⟩
  · rw [unfed (pumping.trans (pump?_none detached))]
    exact ⟨rfl, rfl⟩
  · rw [allGiven_given pumping given] at begins
    refine begins.trans ?_
    cases c.room with
    | none => exact List.prefix_rfl
    | some n => exact List.take_prefix n _
  · rw [full (waiting.trans waits), allGiven_given pumping given, pumping, pump?_given given]
    exact ⟨rfl, rfl⟩
  · have endless : attached.endless = true := by
      rw [Attached.endless, waiting, never.1, pumping, pump?_none never.2]
      rfl
    rw [endless, if_pos rfl] at reached
    exact follow_undelivered start reached
  · have ending : attached.endless = false := by
      refine Bool.eq_false_iff.mpr fun endless => ends ?_
      rw [Attached.endless, waiting, pumping, Bool.and_eq_true_iff] at endless
      obtain ⟨waits, idle⟩ := endless
      refine ⟨waits, fun reads given => ?_⟩
      rw [pump?_given given] at idle
      cases idle
    have all : attached.delivery.finish =
        outcome o.tty t.stdout t.stderr s.output (breakOff client.daemon s) := by
      rw [start, finish_start]
    rw [ending, if_neg Bool.false_ne_true, all] at reached
    exact follow_delivered start reached

/-! ## Stages -/

/-- The request that creates an exec. -/
def creation (o : Options) : Request := .createExec o.container o.config

/-- What it leads to. -/
def created (client : Client) (o : Options) : Except DockerFailure String :=
  (client.daemon.answer (creation o)).read Docker.Document.execId

/-- The request that starts an exec. -/
def starting (client : Client) (o : Options) (exec : String) : Request :=
  .startExec client.version.render exec o.tty

/-- What it leads to. -/
def started (client : Client) (o : Options) (exec : String) : Except Failure Started :=
  let answer := client.daemon.answer (starting client o exec)
  (Docker.Attach.output exec answer.status ⟨answer.body, true⟩).map (⟨·, answer.status = 101⟩)

/-- What the request for the exit code of an exec leads to. -/
def inspected (client : Client) (exec : String) : Except DockerFailure (Option Int) :=
  (client.daemon.answer (.inspectExec exec)).read Docker.Document.exitCode

/-- The exit code of an exec, if it can be told. -/
def codeOf (exec : String) : Except DockerFailure (Option Int) → Except Failure Int
  | .error why => .error (.docker .inspectExec exec why)
  | .ok none => .error (.attach exec .noExitCode)
  | .ok (some code) => .ok code

theorem createExec_apply (client : Client) (o : Options) (w : World) (t : Trace) :
    client.createExec o.container o.config w t =
      ((created client o).mapError (.docker .createExec o.container), t.asked [creation o]) := rfl

/-- An exec that is not created is not started. -/
theorem attend_uncreated {why : DockerFailure} (refused : created client o = .error why) :
    attend client o c w t =
      (.error (.docker .createExec o.container why), t.asked [creation o]) := by
  have creates := createExec_apply client o w t
  rw [refused] at creates
  exact Act.bind_error creates

theorem attend_created (creates : created client o = .ok exec) :
    attend client o c w t = (client.startExec exec o.tty >>= fun started =>
      follow client o c exec started >>= fun _ => client.inspectExec exec >>= fun code? =>
        match code? with
        | some code => pure code
        | none => .fail (.attach exec .noExitCode)) w (t.asked [creation o]) := by
  have created := createExec_apply client o w t
  rw [creates] at created
  exact Act.bind_ok created

theorem startExec_apply (client : Client) (o : Options) (exec : String) (w : World) (t : Trace) :
    client.startExec exec o.tty w t =
      (sentTarget? (starting client o exec).target).elim (.error (.attach exec badTarget), t)
        fun _ => (started client o exec, t.asked [starting client o exec]) := by
  rw [Client.startExec]
  simp only [starting]
  cases sentTarget? (Request.startExec client.version.render exec o.tty).target with
  | none => rfl
  | some sent => rfl

/-- An exec is not started whose name cannot be sent. -/
theorem attend_unsent (creates : created client o = .ok exec)
    (unsendable : sentTarget? (starting client o exec).target = none) :
    attend client o c w t = (.error (.attach exec badTarget), t.asked [creation o]) := by
  have starts := startExec_apply client o exec w (t.asked [creation o])
  rw [unsendable] at starts
  rw [attend_created creates]
  exact Act.bind_error starts

theorem startExec_sent (sendable : (sentTarget? (starting client o exec).target).isSome)
    (w : World) (t : Trace) :
    client.startExec exec o.tty w (t.asked [creation o]) =
      (started client o exec, t.asked [creation o, starting client o exec]) := by
  obtain ⟨sent, isSent⟩ := Option.isSome_iff_exists.mp sendable
  rw [startExec_apply, isSent, Option.elim_some, Trace.asked_asked]
  rfl

/-- An exec that is not started is not followed. -/
theorem attend_unstarted (creates : created client o = .ok exec)
    (sendable : (sentTarget? (starting client o exec).target).isSome) {f : Failure}
    (refused : started client o exec = .error f) :
    attend client o c w t = (.error f, t.asked [creation o, starting client o exec]) := by
  have starts := startExec_sent sendable w t
  rw [refused] at starts
  rw [attend_created creates]
  exact Act.bind_error starts

/-- Asking for the exit code gives it, or tells why not. -/
theorem inspectExec_code (client : Client) (exec : String) (w : World) (t : Trace) :
    (client.inspectExec exec >>= fun code? =>
      match code? with
      | some code => pure code
      | none => .fail (.attach exec .noExitCode) : Act Int) w t =
      (codeOf exec (inspected client exec), t.asked [.inspectExec exec]) := by
  have asks : client.inspectExec exec w t =
      ((inspected client exec).mapError (.docker .inspectExec exec),
        t.asked [.inspectExec exec]) := rfl
  rcases answered : inspected client exec with why | code?
  · rw [answered] at asks
    exact Act.bind_error asks
  · rw [answered] at asks
    rw [Act.bind_ok asks]
    cases code? with
    | none => rfl
    | some code => rfl

/-- An exec that is started is followed, and inspected only if all of its output has been
copied. -/
theorem attend_started (creates : created client o = .ok exec)
    (sendable : (sentTarget? (starting client o exec).target).isSome)
    (starts : started client o exec = .ok s) :
    ∃ fed, Feeds client.daemon o c s fed ∧
      let before := t.asked [creation o, starting client o exec]
      let all := outcome o.tty t.stdout t.stderr s.output (breakOff client.daemon s)
      let after := { before.followed fed with stdout := all.stdout, stderr := all.stderr }
      (Endless client.daemon o c s → attend client o c w t =
        (.error (.attach exec .endless), before.followed fed)) ∧
      (¬ Endless client.daemon o c s →
        (∀ f, all.result = .error f → attend client o c w t = (.error f, after)) ∧
        (all.result = .ok () → attend client o c w t =
          (codeOf exec (inspected client exec), after.asked [.inspectExec exec]))) := by
  have isStarted := startExec_sent sendable w t
  rw [starts] at isStarted
  obtain ⟨fed, feeds, never, ends⟩ :=
    follow_eq client o c exec s w (t.asked [creation o, starting client o exec])
  have attended : attend client o c w t = _ :=
    (attend_created creates).trans (Act.bind_ok isStarted)
  refine ⟨fed, feeds, fun endless => ?_, fun ending => ⟨fun f failed => ?_, fun copied => ?_⟩⟩
  · rw [attended]
    exact Act.bind_error (never endless)
  · have follows := ends ending
    simp only [Trace.asked_stdout, Trace.asked_stderr] at follows
    rw [failed] at follows
    rw [attended]
    exact Act.bind_error follows
  · have follows := ends ending
    simp only [Trace.asked_stdout, Trace.asked_stderr] at follows
    rw [copied] at follows
    rw [attended]
    exact (Act.bind_ok follows).trans (inspectExec_code client exec w _)

/-! ## What does not matter -/

/-- Two runs end in the same way and leave the same behind, apart from what an exec was given. -/
def Agree (r r' : Except Failure Int × Trace) : Prop :=
  r.1 = r'.1 ∧ { r.2 with fed := [] } = { r'.2 with fed := [] }

/-- Two daemons start an exec alike: they refuse it in the same way, or its output is the same,
and both end or neither does. -/
def StartAlike (client client' : Client) (o : Options) (c c' : Course) (exec : String) : Prop :=
  (∃ f, started client o exec = .error f ∧ started client' o exec = .error f) ∨
    ∃ s s', started client o exec = .ok s ∧ started client' o exec = .ok s' ∧
      s.output = s'.output ∧ breakOff client.daemon s = breakOff client'.daemon s' ∧
      (Endless client.daemon o c s ↔ Endless client'.daemon o c' s')

/-- Runs agree whose stages come to the same. -/
theorem attend_agree {client' : Client} {c' : Course} (creates : created client o = created client' o)
    (sends : ∀ exec, starting client o exec = starting client' o exec)
    (starts : ∀ exec, StartAlike client client' o c c' exec)
    (inspects : ∀ exec, inspected client exec = inspected client' exec) (w : World) (t : Trace) :
    Agree (attend client o c w t) (attend client' o c' w t) := by
  cases creation : created client o with
  | error why =>
      rw [attend_uncreated creation, attend_uncreated (creates ▸ creation)]
      exact ⟨rfl, rfl⟩
  | ok exec =>
      have creation' : created client' o = .ok exec := creates ▸ creation
      cases sending : sentTarget? (starting client o exec).target with
      | none =>
          rw [attend_unsent creation sending, attend_unsent creation' (sends exec ▸ sending)]
          exact ⟨rfl, rfl⟩
      | some sent =>
          have sendable : (sentTarget? (starting client o exec).target).isSome := by
            rw [sending]
            rfl
          have sendable' : (sentTarget? (starting client' o exec).target).isSome :=
            sends exec ▸ sendable
          obtain ⟨f, refused, refused'⟩ | ⟨s, s', ok, ok', output, broken, ending⟩ := starts exec
          · rw [attend_unstarted creation sendable refused,
              attend_unstarted creation' sendable' refused', sends exec]
            exact ⟨rfl, rfl⟩
          · obtain ⟨fed, -, never, ends⟩ := attend_started (c := c) (w := w) (t := t)
              creation sendable ok
            obtain ⟨fed', -, never', ends'⟩ := attend_started (c := c') (w := w) (t := t)
              creation' sendable' ok'
            simp only [← output, ← broken, ← sends exec, ← inspects exec] at never' ends'
            by_cases endless : Endless client.daemon o c s
            · rw [never endless, never' (ending.mp endless)]
              exact ⟨rfl, rfl⟩
            · obtain ⟨failed, copied⟩ := ends endless
              obtain ⟨failed', copied'⟩ := ends' (mt ending.mpr endless)
              cases result : (outcome o.tty t.stdout t.stderr s.output
                (breakOff client.daemon s)).result with
              | error f =>
                  rw [failed f result, failed' f result]
                  exact ⟨rfl, rfl⟩
              | ok _ =>
                  rw [copied result, copied' result]
                  exact ⟨rfl, rfl⟩

/-- A client whose daemon sends the output of its exec as a plain body or does not, and breaks it
off or does not. -/
def answering (client : Client) (plain : Bool) (broken : Option String) : Client :=
  { client with daemon := { client.daemon with
    exec := { client.daemon.exec with plainBody := plain }
    breaksOff := broken } }

section Answering

variable (plain plain' : Bool) (broken : Option String)

/-- The other requests are answered as before. -/
theorem answering_answer {r : Request} (other : r.topic ≠ .start) :
    (answering client plain broken).daemon.answer r = client.daemon.answer r := by
  have fixed : (answering client plain broken).daemon.responses = client.daemon.responses := rfl
  rw [Daemon.answer, Daemon.answer, fixed]
  cases client.daemon.responses.lookup r.topic with
  | some response => rfl
  | none =>
      cases r with
      | startExec _ _ _ => exact absurd rfl other
      | _ => rfl

theorem answering_created : created (answering client plain broken) o = created client o := by
  rw [created, answering_answer plain broken (by simp [creation, Request.topic]), created]

theorem answering_inspected (exec : String) :
    inspected (answering client plain broken) exec = inspected client exec := by
  rw [inspected, answering_answer plain broken (by simp [Request.topic]), inspected]

variable (client o) in
/-- What starting an exec leads to: the answer that is fixed, or the exec's output over one
transport or the other. -/
theorem answering_started (exec : String) :
    started (answering client plain broken) o exec =
      match client.daemon.responses.lookup .start with
      | some fixed => (Docker.Attach.output exec fixed.status ⟨fixed.body, true⟩).map
          (⟨·, fixed.status = 101⟩)
      | none => .ok ⟨client.daemon.exec.output.flatten, !plain⟩ := by
  have fixed : (answering client plain broken).daemon.responses = client.daemon.responses := rfl
  have start : (starting (answering client plain broken) o exec).topic = .start := rfl
  rw [started, Daemon.answer, fixed, start]
  cases client.daemon.responses.lookup .start with
  | some fixed => rfl
  | none => cases plain <;> rfl

/-- An exec whose daemon does not wait comes to an end. -/
theorem answering_ends (waits : client.daemon.execWaits = false) (s : Started) :
    ¬ Endless (answering client plain broken).daemon o c s := by
  rintro ⟨isWaiting, -⟩
  have same : (answering client plain broken).daemon.execWaits = client.daemon.execWaits := rfl
  rw [same, waits] at isWaiting
  cases isWaiting

/-- How output is sent that breaks off nowhere does not matter to an exec that does not wait. -/
theorem unbroken_startAlike (waits : client.daemon.execWaits = false) (c c' : Course)
    (exec : String) :
    StartAlike (answering client plain none) (answering client plain' none) o c c' exec := by
  have whole (plain : Bool) (s : Started) :
      breakOff (answering client plain none).daemon s = none := ite_self _
  have starts := answering_started client o plain none exec
  have starts' := answering_started client o plain' none exec
  cases fixed : client.daemon.responses.lookup .start with
  | some response =>
      rw [fixed] at starts starts'
      cases leads : (Docker.Attach.output exec response.status ⟨response.body, true⟩).map
          (⟨·, response.status = 101⟩ : Bytes → Started) with
      | error f => exact .inl ⟨f, starts.trans leads, starts'.trans leads⟩
      | ok s =>
          refine .inr ⟨s, s, starts.trans leads, starts'.trans leads, rfl, ?_, ?_⟩
          · rw [whole, whole]
          · exact iff_of_false (answering_ends _ _ waits _) (answering_ends _ _ waits _)
  | none =>
      rw [fixed] at starts starts'
      refine .inr ⟨_, _, starts, starts', rfl, ?_, ?_⟩
      · rw [whole, whole]
      · exact iff_of_false (answering_ends _ _ waits _) (answering_ends _ _ waits _)

/-- A plain body that breaks off is taken for whole by an exec that does not wait. -/
theorem plain_startAlike (waits : client.daemon.execWaits = false)
    (unfixed : client.daemon.responses.lookup .start = none) (c c' : Course) (exec : String) :
    StartAlike (answering client true broken) (answering client plain none) o c c' exec := by
  have starts := answering_started client o true broken exec
  have starts' := answering_started client o plain none exec
  rw [unfixed] at starts starts'
  refine .inr ⟨_, _, starts, starts', rfl, ?_, ?_⟩
  · cases plain <;> rfl
  · exact iff_of_false (answering_ends _ _ waits _) (answering_ends _ _ waits _)

/-- Execs agree whose daemons start them alike, whatever else is asked of those. -/
theorem answering_agree {plain plain' : Bool} {broken broken' : Option String} {c c' : Course}
    (starts : ∀ exec, StartAlike (answering client plain broken)
      (answering client plain' broken') o c c' exec) :
    Agree (attend (answering client plain broken) o c w t)
      (attend (answering client plain' broken') o c' w t) := by
  refine attend_agree ?_ (fun exec => ?_) starts (fun exec => ?_) w t
  · rw [answering_created, answering_created]
  · rfl
  · rw [answering_inspected, answering_inspected]

end Answering

/-- Which course an attached exec takes does not matter, as long as there is input or none. -/
theorem course_startAlike {c c' : Course}
    (alike : o.attachStdin = true → client.daemon.execWaits = true →
      c.input.isSome = c'.input.isSome) (exec : String) :
    StartAlike client client o c c' exec := by
  cases starts : started client o exec with
  | error f => exact .inl ⟨f, starts, starts⟩
  | ok s =>
      refine .inr ⟨s, s, starts, starts, rfl, rfl, ?_⟩
      have given (c c' : Course) (same : c.input.isSome = c'.input.isSome)
          (detached : ∀ reads, ¬ Given o c s reads) : ∀ reads, ¬ Given o c' s reads := by
        rintro reads ⟨attached, switched, input⟩
        rw [input, Option.isSome_some, Option.isSome_iff_exists] at same
        obtain ⟨reads', input'⟩ := same
        exact detached reads' ⟨attached, switched, input'⟩
      constructor
      · rintro ⟨waits, detached⟩
        refine ⟨waits, fun reads is => ?_⟩
        exact given c c' (alike is.1 waits) detached reads is
      · rintro ⟨waits, detached⟩
        refine ⟨waits, fun reads is => ?_⟩
        exact given c' c (alike is.1 waits).symm detached reads is

/-! ## The guarantee -/

/-- **An exit code is given behind the output that belongs to it.** The exec is created, started
and inspected in this order, each only if what comes before it succeeded, and inspected only
when all of its output has been copied without a failure, which is not so where the connection
breaks off. On a terminal, standard output gets the output as it is, and otherwise both sinks get
what splitting it gives them; a failure of copying is the result. The exit code is the result if
all of this succeeds and the daemon tells one.

The exec is given its input if that is attached, in full and to its end if it waits for it, and
nothing otherwise. How the streams go, in which pieces and in which order, how the input ends or
fails and, where the output breaks off nowhere, whether the daemon switches the connection or
sends a plain body: none of that changes the result or the output. A plain body that does break
off is taken for all of the output. -/
theorem exit_code_follows_output (client : Client) (o : Options) (c : Course) (w : World)
    (t : Trace) :
    (∀ why, created client o = .error why → attend client o c w t =
      (.error (.docker .createExec o.container why), t.asked [creation o])) ∧
    (∀ exec, created client o = .ok exec →
      (sentTarget? (starting client o exec).target = none → attend client o c w t =
        (.error (.attach exec badTarget), t.asked [creation o])) ∧
      ((sentTarget? (starting client o exec).target).isSome →
        (∀ f, started client o exec = .error f → attend client o c w t =
          (.error f, t.asked [creation o, starting client o exec])) ∧
        ∀ s, started client o exec = .ok s → ∃ fed, Feeds client.daemon o c s fed ∧
          let before := t.asked [creation o, starting client o exec]
          let all := outcome o.tty t.stdout t.stderr s.output (breakOff client.daemon s)
          let after := { before.followed fed with stdout := all.stdout, stderr := all.stderr }
          (Endless client.daemon o c s → attend client o c w t =
            (.error (.attach exec .endless), before.followed fed)) ∧
          (¬ Endless client.daemon o c s →
            (∀ f, all.result = .error f → attend client o c w t = (.error f, after)) ∧
            (all.result = .ok () → breakOff client.daemon s = none ∧ attend client o c w t =
              (codeOf exec (inspected client exec), after.asked [.inspectExec exec]))))) ∧
    (∀ c' : Course, (o.attachStdin = true → client.daemon.execWaits = true →
        c.input.isSome = c'.input.isSome) →
      Agree (attend client o c w t) (attend client o c' w t)) ∧
    (client.daemon.execWaits = false → ∀ c' plain plain',
      Agree (attend (answering client plain none) o c w t)
        (attend (answering client plain' none) o c' w t)) ∧
    (client.daemon.execWaits = false → client.daemon.responses.lookup .start = none →
      ∀ c' broken plain, Agree (attend (answering client true broken) o c w t)
        (attend (answering client plain none) o c' w t)) := by
  refine ⟨fun why refused => attend_uncreated refused, fun exec creates =>
    ⟨attend_unsent creates, fun sendable => ⟨fun f refused => ?_, fun s starts => ?_⟩⟩,
    fun c' alike => ?_, fun waits c' plain plain' => ?_, fun waits unfixed c' broken plain => ?_⟩
  · exact attend_unstarted creates sendable refused
  · obtain ⟨fed, feeds, never, ends⟩ := attend_started (c := c) (w := w) (t := t) creates sendable
      starts
    refine ⟨fed, feeds, never, fun ending => ?_⟩
    obtain ⟨failed, copied⟩ := ends ending
    exact ⟨failed, fun all => ⟨outcome_ok all, copied all⟩⟩
  · exact attend_agree rfl (fun _ => rfl) (course_startAlike alike) (fun _ => rfl) w t
  · exact answering_agree (unbroken_startAlike plain plain' waits c c')
  · exact answering_agree (plain_startAlike plain broken waits unfixed c c')

/-! ## An exec that waits -/

/-- A client of a daemon whose exec waits for its input and then puts out what looks like a
header. -/
def waitingClient : Client where
  daemon := { searchDaemon with
    exec := ⟨"e1", [[1, 0, 0, 0], [0, 0, 0, 255, 114, 97, 119]], some 3, true, false⟩ }
  socket := "/var/run/docker.sock"
  version := .newest

/-- Octets arrive one by one, and input is lost in the middle. -/
def dribble : Course where
  input := some [.chunk [108, 115], .failure "gone", .chunk [10]]
  cut := fun output => output.map fun b => [b]
  schedule := [.output, .input, .output, .input, .output, .output]
  cut_flatten := fun output => by
    rw [← List.flatMap_def, List.flatMap_singleton']
  cut_nonempty := fun output piece mem => by
    obtain ⟨b, -, rfl⟩ := List.mem_map.mp mem
    exact List.cons_ne_nil b []

/-- A shell on a terminal, with all streams. -/
def shell : Options := Options.interactive { container := "search", command := ["sh"] }

/-- A client of a daemon whose exec does the same without waiting. -/
def hastyClient : Client :=
  { waitingClient with daemon := { waitingClient.daemon with
    exec := { waitingClient.daemon.exec with awaitsInput := false } } }

/-- The shell gets what comes before the loss of its input, which is closed then; its output is
taken as it is, and its exit code is asked for. It ends in the same way without any loss, and
where it does not wait, also behind a plain body. -/
theorem shell_outlives_input :
    attend waitingClient shell dribble galleryWorld {} = (.ok 3, {
      stdout := ⟨none, [1, 0, 0, 0, 0, 0, 0, 255, 114, 97, 119]⟩
      fed := [⟨[108, 115], true, true⟩]
      log := [.work, .work, .work, .work]
      requests := [.createExec "search" shell.config, .startExec "1.47" "e1" true,
        .inspectExec "e1"] }) ∧
    (run waitingClient shell (some []) galleryWorld {}).1 = .ok 3 ∧
    Agree (attend (answering hastyClient true (some "gone")) shell dribble galleryWorld {})
      (run (answering hastyClient false none) shell none galleryWorld {}) := by
  obtain ⟨-, stages, courses, -, -⟩ :=
    exit_code_follows_output waitingClient shell dribble galleryWorld {}
  obtain ⟨-, -, -, -, unnoticed⟩ :=
    exit_code_follows_output hastyClient shell dribble galleryWorld {}
  have creates : created waitingClient shell = .ok "e1" := by decide +kernel
  have sendable : (sentTarget? (starting waitingClient shell "e1").target).isSome := by
    decide +kernel
  have starts : started waitingClient shell "e1" =
      .ok ⟨[1, 0, 0, 0, 0, 0, 0, 255, 114, 97, 119], true⟩ := by decide +kernel
  have inspects : inspected waitingClient "e1" = .ok (some 3) := by decide +kernel
  have given : Given shell dribble ⟨[1, 0, 0, 0, 0, 0, 0, 255, 114, 97, 119], true⟩
      [.chunk [108, 115], .failure "gone", .chunk [10]] := ⟨rfl, rfl, rfl⟩
  obtain ⟨-, followed⟩ := (stages "e1" creates).2 sendable
  obtain ⟨⟨octets, closed, awaited⟩, feeds, -, ends⟩ := followed _ starts
  obtain ⟨full, isClosed⟩ := feeds.full _ given rfl
  obtain ⟨-, copied⟩ := ends fun never => never.2 _ given
  cases full
  cases isClosed
  cases feeds.awaited
  obtain ⟨-, ended⟩ := copied rfl
  rw [inspects] at ended
  obtain ⟨same, -⟩ := courses (.smooth (some [])) fun _ _ => rfl
  rw [ended] at same
  exact ⟨ended, same.symm, unnoticed rfl rfl (.smooth none) (some "gone") false⟩

/-! ## A body that breaks off -/

/-- A client of a daemon whose connection is lost behind the first frame of its exec's output. -/
def losingClient : Client :=
  { hastyClient with daemon := { hastyClient.daemon with
    exec := ⟨"e1", [[1, 0, 0, 0, 0, 0, 0, 2, 104, 105]], some 0, false, false⟩
    breaksOff := some "gone" } }

/-- An exec that only puts something out. -/
def listing : Options := Options.plain { container := "search", command := ["ls"] }

/-- Over a switched connection the loss is the result, and the exit code is not asked for. Behind
a plain body it is asked for and given, as if the output were whole: ten octets pass for an
answer that announces twenty. -/
theorem truncated_body_passes_for_whole :
    let switched := attend (answering losingClient false (some "gone")) listing (.smooth none)
      galleryWorld {}
    let plain := attend (answering losingClient true (some "gone")) listing (.smooth none)
      galleryWorld {}
    switched.1 = .error (readFailure "gone") ∧ .inspectExec "e1" ∉ switched.2.requests ∧
      plain.1 = .ok 0 ∧ .inspectExec "e1" ∈ plain.2.requests ∧
      Docker.Attach.outputOfOctets "abc123"
        (Text.Utf8.encode "HTTP/1.1 200 OK\r\nContent-Length: 20\r\n\r\n" ++
          [1, 0, 0, 0, 0, 0, 0, 2, 104, 105]) = .ok [1, 0, 0, 0, 0, 0, 0, 2, 104, 105] := by
  decide +kernel

end Exec

end ComposeSite
