/-
# ComposeSite.Proofs.Terminal.RawMode -- raw mode is left on every way out

One log has what happens to the terminal and, between that, one piece of work for each thing
that is done meanwhile.  `Guards` says what some work comes to that is done with the terminal
in raw mode, in terms of what it is without: the work starts from a state in which raw mode
has been entered, logs so many pieces of work there, and raw mode is left after them.  It is
stated for any state that holds such a log, of which there are two: a session with its log, and
the trace of an act.

A session logs a piece of work for each step that it looks at and each send that it makes
(`Session.Works`), an exec one for each request and one for following it
(`Exec.run_logged`).  Neither asks what is in the log already, and so raw mode around them
puts its two events around those (`Terminal.Work.guards`, `Act.inRawMode_guards`).
-/
import ComposeSite.Exec.Run
import ComposeSite.Proofs.Session.Input
import ComposeSite.Ssh.Connection

set_option autoImplicit false

namespace ComposeSite

namespace Terminal

/-! ## Guarded work -/

section Guards

variable {τ α : Type} {t : Terminal} {log : τ → List Event} {note : τ → Event → τ}
  {body guarded : τ → Except Failure α × τ} {works : Nat} {s : τ}

/-- Some work that logs so many pieces is done with a terminal in raw mode, from a state on. A
terminal that is none gets no event; if raw mode cannot be entered, that is the result and the
work has not begun; otherwise the work is done between the two events, and its result is the
result. -/
structure Guards (t : Terminal) (log : τ → List Event) (note : τ → Event → τ)
    (body guarded : τ → Except Failure α × τ) (works : Nat) (s : τ) : Prop where
  untouched : t.isTerminal = false →
    guarded s = body s ∧ log (body s).2 = log s ++ .replicate works .work
  refused : t.isTerminal = true → t.failsEnabling = true →
    guarded s = (.error (refusal .enable), note s .enable)
  held : t.isTerminal = true → t.failsEnabling = false →
    guarded s = ((body (note s .enable)).1, note (body (note s .enable)).2 .disable) ∧
      log (body (note s .enable)).2 = log (note s .enable) ++ .replicate works .work ∧
      (body (note s .enable)).1 = (body s).1

/-- What is logged where so many pieces of work are done in the raw mode of a terminal. -/
def visit (t : Terminal) (works : Nat) : List Event :=
  if t.isTerminal then
    if t.failsEnabling then [.enable] else .enable :: (.replicate works .work ++ [.disable])
  else .replicate works .work

/-- Guarded work adds one visit to the log. -/
theorem Guards.log_eq (guards : t.Guards log note body guarded works s)
    (notes : ∀ s e, log (note s e) = log s ++ [e]) :
    log (guarded s).2 = log s ++ t.visit works := by
  rw [visit]
  cases isTerminal : t.isTerminal with
  | false =>
      obtain ⟨same, logs⟩ := guards.untouched isTerminal
      rw [same, logs]
      rfl
  | true =>
      cases fails : t.failsEnabling with
      | true =>
          rw [guards.refused isTerminal fails, notes]
          rfl
      | false =>
          obtain ⟨same, logs, -⟩ := guards.held isTerminal fails
          rw [same, notes, logs, notes]
          simp

/-- Of a visit, the terminal itself gets what it would get if nothing were done. -/
theorem visit_modes (t : Terminal) (works : Nat) :
    (t.visit works).filter (·.isMode) = t.visit 0 := by
  have beside : (List.replicate works Event.work).filter (·.isMode) = [] :=
    List.filter_eq_nil_iff.mpr fun e mem => by
      rw [List.eq_of_mem_replicate mem]
      exact Bool.false_ne_true
  rw [visit, visit]
  split
  · split
    · rfl
    · rw [List.filter_cons_of_pos rfl, List.filter_append, beside]
      rfl
  · exact beside

end Guards

section Work

variable {σ α : Type}

/-- Work in a state that has the log beside its own. -/
def Work.logged (work : Work σ α) : List Event × σ → Except Failure α × (List Event × σ) :=
  fun (log, s) =>
    let (events, s, r) := work s
    (r, log ++ events, s)

/-- Notes an event beside a state. -/
def noted : List Event × σ → Event → List Event × σ
  | (log, s), e => (log ++ [e], s)

/-- Work that tells of nothing but pieces of work is guarded by raw mode around it. -/
theorem Work.guards (t : Terminal) {work : Work σ α} {works : Nat} {s : σ}
    (logs : (work s).1 = .replicate works .work) (log : List Event) :
    t.Guards Prod.fst noted work.logged (Work.logged (t.withRawMode work)) works (log, s) where
  untouched isNone := by
    refine ⟨?_, congrArg (log ++ ·) logs⟩
    simp only [Work.logged, withRawMode, isNone, Bool.false_eq_true, if_false]
  refused isTerminal fails := by
    simp only [Work.logged, withRawMode, isTerminal, fails, if_true, noted]
  held isTerminal enters := by
    refine ⟨?_, congrArg (log ++ [.enable] ++ ·) logs, rfl⟩
    simp only [Work.logged, withRawMode, isTerminal, enters, if_true, Bool.false_eq_true, if_false,
      noted, List.append_assoc, List.cons_append, List.nil_append]

end Work

end Terminal

/-! ## Acts -/

namespace Trace

/-- A trace with another log. -/
def withLog (t : Trace) (log : List Terminal.Event) : Trace := { t with log := log }

/-- Notes an event of the terminal. -/
def onTerminal (t : Trace) (e : Terminal.Event) : Trace := t.withLog (t.log ++ [e])

end Trace

namespace Act

variable {α β : Type} {w : World}

/-- From a trace on, an act sends some requests and follows some execs, and for each of them it
logs a piece of work, whatever is in the log. -/
structure LogsWork (act : Act α) (w : World) (t : Trace) (requests : List Docker.Request)
    (fed : List Docker.Fed) : Prop where
  asks : (act w t).2.requests = t.requests ++ requests
  follows : (act w t).2.fed = t.fed ++ fed
  logs : ∀ log, act w (t.withLog log) = ((act w t).1,
    (act w t).2.withLog (log ++ .replicate (requests.length + fed.length) .work))

/-- An act logs all requests that it sends and all execs that it follows. -/
def Logged (act : Act α) (w : World) : Prop := ∀ t, ∃ requests fed, act.LogsWork w t requests fed

theorem LogsWork.log_eq {act : Act α} {t : Trace} {requests : List Docker.Request}
    {fed : List Docker.Fed} (logs : act.LogsWork w t requests fed) :
    (act w t).2.log = t.log ++ .replicate (requests.length + fed.length) .work :=
  congrArg (·.2.log) (logs.logs t.log)

theorem logged_pure (a : α) : (pure a : Act α).Logged w := fun t =>
  ⟨[], [], (List.append_nil _).symm, (List.append_nil _).symm, fun log => by simp⟩

theorem logged_ofResult (r : Except Failure α) : (Act.ofResult r).Logged w := fun t =>
  ⟨[], [], (List.append_nil _).symm, (List.append_nil _).symm, fun log => by simp [ofResult]⟩

theorem logged_fail (f : Failure) : (Act.fail f : Act α).Logged w :=
  logged_ofResult (.error f)

theorem LogsWork.bind {act : Act α} {next : α → Act β} {t after : Trace} {a : α}
    {early late : List Docker.Request} {fed fedLate : List Docker.Fed}
    (first : act.LogsWork w t early fed) (ends : act w t = (.ok a, after))
    (second : (next a).LogsWork w after late fedLate) :
    (act >>= next).LogsWork w t (early ++ late) (fed ++ fedLate) where
  asks := by
    have asks := first.asks
    rw [ends] at asks
    rw [bind_ok ends, second.asks, asks, List.append_assoc]
  follows := by
    have follows := first.follows
    rw [ends] at follows
    rw [bind_ok ends, second.follows, follows, List.append_assoc]
  logs log := by
    have logs := first.logs log
    rw [ends] at logs
    rw [bind_ok ends, bind_ok logs, second.logs, List.append_assoc,
      List.replicate_append_replicate, List.length_append, List.length_append,
      Nat.add_add_add_comm]

theorem LogsWork.bind_error {act : Act α} {next : α → Act β} {t after : Trace} {f : Failure}
    {requests : List Docker.Request} {fed : List Docker.Fed}
    (first : act.LogsWork w t requests fed) (ends : act w t = (.error f, after)) :
    (act >>= next).LogsWork w t requests fed where
  asks := by
    have asks := first.asks
    rw [ends] at asks
    rw [Act.bind_error ends, asks]
  follows := by
    have follows := first.follows
    rw [ends] at follows
    rw [Act.bind_error ends, follows]
  logs log := by
    have logs := first.logs log
    rw [ends] at logs
    rw [Act.bind_error ends, Act.bind_error logs]

theorem Logged.bind {act : Act α} {next : α → Act β} (first : act.Logged w)
    (second : ∀ a, (next a).Logged w) : (act >>= next).Logged w := by
  intro t
  obtain ⟨early, fed, logs⟩ := first t
  rcases ends : act w t with ⟨f | a, after⟩
  · exact ⟨early, fed, logs.bind_error ends⟩
  · obtain ⟨late, fedLate, logsLate⟩ := second a after
    exact ⟨_, _, logs.bind ends logsLate⟩

/-- An act that logs its work is guarded by raw mode around it. -/
theorem inRawMode_guards {act : Act α} {t : Trace} {requests : List Docker.Request}
    {fed : List Docker.Fed} (logs : act.LogsWork w t requests fed) :
    w.terminal.Guards Trace.log Trace.onTerminal (act w) (act.inRawMode w)
      (requests.length + fed.length) t where
  untouched isNone := by
    refine ⟨?_, logs.log_eq⟩
    have kept : t.log ++ (act w t).2.log.drop t.log.length = (act w t).2.log := by
      rw [logs.log_eq, List.drop_left]
    simp only [inRawMode, Terminal.withRawMode, isNone, Bool.false_eq_true, if_false, kept]
  refused isTerminal fails := by
    simp [inRawMode, Terminal.withRawMode, isTerminal, fails, Trace.onTerminal, Trace.withLog]
  held isTerminal enters := by
    have entered := logs.logs (t.log ++ [.enable])
    rw [← Trace.onTerminal] at entered
    refine ⟨?_, by rw [entered]; rfl, by rw [entered]⟩
    rw [entered]
    simp [inRawMode, Terminal.withRawMode, isTerminal, enters, Trace.onTerminal, logs.log_eq,
      Trace.withLog]

end Act

/-! ## Execs -/

namespace Docker

variable {client : Client} {w : World}

theorem ask_logged (d : Daemon) (r : Request) : (ask d r).Logged w := fun _ =>
  ⟨[r], [], rfl, (List.append_nil _).symm, fun _ => rfl⟩

theorem askFor_logged {α : Type} (d : Daemon) (r : Request) (operation : DockerOperation)
    (target : String) (reader : Json.Reader α) :
    (askFor d r operation target reader).Logged w :=
  (ask_logged d r).bind fun _ => Act.logged_ofResult _

theorem Client.startExec_logged (exec : String) (tty : Bool) :
    (client.startExec exec tty).Logged w := by
  rw [Client.startExec]
  split
  · exact Act.logged_fail _
  · exact (ask_logged _ _).bind fun _ => Act.logged_ofResult _

end Docker

namespace Exec

theorem follow_logged (client : Docker.Client) (o : Options) (c : Course) (exec : String)
    (s : Docker.Started) (w : World) : (follow client o c exec s).Logged w := by
  intro t
  obtain ⟨fed, r, out, err, ends⟩ : ∃ fed r out err, ∀ log,
      follow client o c exec s w (t.withLog log) = (r, { t with
        stdout := out, stderr := err, fed := t.fed ++ [fed], log := log ++ [.work] }) := by
    simp only [follow, Trace.withLog]
    generalize (Attached.run _ c.schedule).settle = ended
    refine ⟨ended.fed, ?_⟩
    cases ended.delivery.delivered? with
    | some d => exact ⟨_, _, _, fun _ => rfl⟩
    | none => exact ⟨_, _, _, fun _ => rfl⟩
  have same : follow client o c exec s w t = _ := ends t.log
  refine ⟨[], [fed], ?_, ?_, fun log => ?_⟩
  · rw [same, List.append_nil]
  · rw [same]
  · rw [same, ends]
    rfl

theorem run_logged (client : Docker.Client) (o : Options) (input : Option Bytes) (w : World) :
    (run client o input).Logged w := by
  refine (Docker.askFor_logged _ _ _ _ _).bind fun exec => ?_
  refine (Docker.Client.startExec_logged exec o.tty).bind fun started => ?_
  refine (follow_logged client o _ exec started w).bind fun _ => ?_
  refine (Docker.askFor_logged _ _ _ _ _).bind fun code => ?_
  split
  · exact Act.logged_pure _
  · exact Act.logged_fail _

end Exec

/-! ## Sessions -/

namespace Session

/-- A session without raw mode around it. -/
def unguarded (line : String) : Terminal.Work (State × List Step) String := fun (s, steps) =>
  let e := run s steps
  (e.state.log.drop s.log.length, (e.state, e.rest),
    e.report >>= fun (exit, last) => outcome line exit last)

theorem unguarded_logs (line : String) {s : State} {steps looked : List Step} {sent : List Sent}
    (works : Works s steps looked sent) :
    (unguarded line (s, steps)).1 = .replicate (looked.length + sent.length) .work := by
  rw [unguarded, works.logs, List.drop_left]

/-- A session under a terminal is one with raw mode around it. -/
theorem conduct_eq (t : Terminal) (line : String) :
    conduct t line = t.withRawMode (unguarded line) := by
  funext ⟨s, steps⟩
  simp only [conduct, unguarded, Terminal.withRawMode]
  split
  · split <;> rfl
  · rfl

end Session

/-- A world in which there is no terminal to put into raw mode. -/
def World.withoutTerminal (w : World) : World :=
  { w with terminal := { w.terminal with isTerminal := false } }

namespace Ssh

namespace Connection

variable (connection : Connection) (line : String) (w : World) (t : Trace)

/-- What a conversation starts from. -/
def opening : Session.State := { sink := t.stdout, allowance := connection.server.sends }

/-- What a conversation is, given how its session went. -/
def closing (ended : List Terminal.Event × (Session.State × List Session.Step) ×
    Except Failure String) : Except Failure String × Trace :=
  (ended.2.2, { t with
    stdout := ended.2.1.1.sink
    log := t.log ++ ended.1
    connections := t.connections ++ connection.heard ended.2.1.1 })

theorem converse_eq : connection.converse line w t = connection.closing t
    (w.terminal.withRawMode (Session.unguarded line)
      (connection.opening t, connection.timeline w.stdin)) := by
  rw [← Session.conduct_eq]
  rfl

/-- What is exchanged with a command on another host is guarded; if raw mode cannot be entered,
nothing has been said on the connection. -/
theorem converse_guards {looked : List Session.Step} {sent : List Session.Sent}
    (works : Session.Works (connection.opening t) (connection.timeline w.stdin) looked sent) :
    w.terminal.Guards Trace.log Trace.onTerminal (connection.converse line w.withoutTerminal)
      (connection.converse line w) (looked.length + sent.length) t := by
  have logs := Session.unguarded_logs line works
  have alone (t : Trace) : connection.converse line w.withoutTerminal t =
      connection.closing t (Session.unguarded line
        (connection.opening t, connection.timeline w.stdin)) :=
    converse_eq connection line w.withoutTerminal t
  constructor
  · intro isNone
    rw [alone, converse_eq]
    refine ⟨?_, congrArg (t.log ++ ·) logs⟩
    simp only [Terminal.withRawMode, isNone, Bool.false_eq_true, if_false]
  · intro isTerminal fails
    rw [converse_eq]
    simp [Terminal.withRawMode, isTerminal, fails, closing, heard, opening, Trace.onTerminal,
      Trace.withLog]
  · intro isTerminal enters
    rw [alone, alone, converse_eq]
    refine ⟨?_, congrArg (t.log ++ [.enable] ++ ·) logs, rfl⟩
    simp [Terminal.withRawMode, isTerminal, enters, closing, opening, Trace.onTerminal,
      Trace.withLog]

end Connection

end Ssh

/-- **Raw mode is entered before the work and left after it, however the work ends.** What any
work tells of itself stands between the two events. A session with any timeline, any limit of its
sink and any number of sends that succeed tells of a piece of work for each step that it looks at
and each send that it makes, and an exec with any daemon of one for each request and for following
it; so does what is exchanged with a command on another host. From any state, raw mode is entered
first, all of that work comes then, and its own result is the result, also when raw mode cannot
be left. If raw mode cannot be entered that is the result, and nothing but the attempt has
happened. -/
theorem raw_mode_balanced :
    (∀ {σ α : Type} (t : Terminal) (work : Terminal.Work σ α) (s : σ), t.isTerminal = true →
      t.failsEnabling = false → t.withRawMode work s =
        (.enable :: ((work s).1 ++ [.disable]), (work s).2)) ∧
    (∀ (t : Terminal) (line : String) (log : List Terminal.Event) (s : Session.State)
      (steps : List Session.Step), ∃ looked sent, Session.Works s steps looked sent ∧
        t.Guards Prod.fst Terminal.noted (Session.unguarded line).logged
          (Session.conduct t line).logged (looked.length + sent.length) (log, s, steps) ∧
        (Session.conduct t line (s, steps)).1 = t.visit (looked.length + sent.length) ∧
        Session.drive t line (s, steps) = (t.visit 0, (Session.conduct t line (s, steps)).2)) ∧
    (∀ (connection : Ssh.Connection) (line : String) (w : World) (t : Trace), ∃ looked sent,
      Session.Works (connection.opening t) (connection.timeline w.stdin) looked sent ∧
        w.terminal.Guards Trace.log Trace.onTerminal
          (connection.converse line w.withoutTerminal) (connection.converse line w)
          (looked.length + sent.length) t ∧
        (connection.converse line w t).2.log =
          t.log ++ w.terminal.visit (looked.length + sent.length)) ∧
    ∀ (client : Docker.Client) (o : Exec.Options) (w : World) (t : Trace), ∃ requests fed,
      (Exec.run client o.interactive (some w.stdin)).LogsWork w t requests fed ∧
        w.terminal.Guards Trace.log Trace.onTerminal
          (Exec.run client o.interactive (some w.stdin) w) (Exec.runInteractive client o w)
          (requests.length + fed.length) t ∧
        (Exec.runInteractive client o w t).2.log =
          t.log ++ w.terminal.visit (requests.length + fed.length) := by
  refine ⟨fun t work s isTerminal enters => ?_, fun t line log s steps => ?_,
    fun connection line w t => ?_, fun client o w t => ?_⟩
  · simp [Terminal.withRawMode, isTerminal, enters]
  · obtain ⟨looked, sent, works⟩ := Session.exists_works s steps
    have guards := Terminal.Work.guards t (Session.unguarded_logs line works)
    rw [← Session.conduct_eq] at guards
    have visits : (Session.conduct t line (s, steps)).1 = _ := (guards []).log_eq fun _ _ => rfl
    rw [List.nil_append] at visits
    refine ⟨looked, sent, works, guards log, visits, ?_⟩
    rw [← Terminal.visit_modes t (looked.length + sent.length), ← visits]
    rfl
  · obtain ⟨looked, sent, works⟩ :=
      Session.exists_works (connection.opening t) (connection.timeline w.stdin)
    have guards := connection.converse_guards line w t works
    exact ⟨looked, sent, works, guards, guards.log_eq fun _ _ => rfl⟩
  · obtain ⟨requests, fed, logs⟩ := Exec.run_logged client o.interactive (some w.stdin) w t
    have guards := Act.inRawMode_guards logs
    exact ⟨requests, fed, logs, guards, guards.log_eq fun _ _ => rfl⟩

/-- A terminal that cannot be put back. -/
def stuckTerminal : Terminal := { isTerminal := true, failsDisabling := true }

/-- A session whose first send fails, on a terminal that cannot be put back: the step was looked
at between the two events, and the send is what is told of. Work that fails there is told of
likewise. -/
theorem raw_mode_balanced_stuck :
    (Session.conduct stuckTerminal "up" ({ sink := {}, allowance := some 0 },
      [.input (.octets [3]), .message .close])).1 = [.enable, .work, .disable] ∧
    (Session.conduct stuckTerminal "up" ({ sink := {}, allowance := some 0 },
      [.input (.octets [3]), .message .close])).2.2 = .error Session.channelClosed ∧
    stuckTerminal.withRawMode
        (fun n => ([.work], n + 1, (.error (.frame (.stated "boom")) : Except Failure Unit))) 0 =
      ([.enable, .work, .disable], 1, .error (.frame (.stated "boom"))) := by
  obtain ⟨works, sessions, -, -⟩ := raw_mode_balanced
  obtain ⟨looked, sent, session, guards, visited, -⟩ := sessions stuckTerminal "up" []
    { sink := {}, allowance := some 0 } [.input (.octets [3]), .message .close]
  have logged : List.replicate (looked.length + sent.length) Terminal.Event.work = [.work] :=
    session.logs.symm
  have held := (guards.held rfl rfl).1
  refine ⟨?_, congrArg Prod.fst held, works stuckTerminal _ 0 rfl rfl⟩
  rw [visited, Terminal.visit, logged]
  rfl

end ComposeSite
