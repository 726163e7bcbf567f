/-
# ComposeSite.Proofs.Program.PassThrough -- the user's words reach what they are meant for

Words that a command line passes on (`CommandLine.read_append`) are the arguments of a program
or the command of an exec.  On this machine the program is started with just these arguments,
and its output is what is shown (`Session.RanHere`); on another host there is one command line,
and a shell reads it back as these words (`runCommand_far`).  An exec is created with just these
words, in one container (`exec_created`).
-/
import ComposeSite.Proofs.CommandLine.Verbatim
import ComposeSite.Proofs.Docker.Reach
import ComposeSite.Proofs.Shell.RemoteLine
import ComposeSite.Proofs.Ssh.Closing

set_option autoImplicit false

namespace ComposeSite

/-! ## Command lines on hosts -/

/-- The command line that a server is given. -/
def Ssh.Event.command? : Ssh.Event → Option String
  | .seen (.command line) => some line
  | _ => none

/-- The command lines that servers have been given. -/
def Trace.commandLines (t : Trace) : List String :=
  t.connections.filterMap fun entry => entry.2.command?

theorem Trace.commandLines_append {t t' : Trace} {log : List (Nat × Ssh.Event)}
    (added : t'.connections = t.connections ++ log) :
    t'.commandLines = t.commandLines ++ log.filterMap fun entry => entry.2.command? := by
  rw [commandLines, added, List.filterMap_append, commandLines]

/-- Servers are given some command lines. -/
def Act.Tells {α : Type} (act : Act α) (w : World) (lines : List String) : Prop :=
  ∀ t, (act w t).2.commandLines = t.commandLines ++ lines

/-- After an act that gives no command line, those are given that follow. -/
theorem Act.ComesTo.tells {α β : Type} {act : Act α} {next : α → Act β} {w : World}
    {r : Except Failure α} {lines : List String} (comes : act.ComesTo Trace.commandLines w r)
    (stops : ∀ f, r = .error f → lines = []) (rest : ∀ a, r = .ok a → (next a).Tells w lines) :
    (act >>= next).Tells w lines := by
  intro t
  obtain ⟨result, same⟩ := comes t
  rw [bind_apply]
  rcases ended : act w t with ⟨f | a, t'⟩
  · rw [ended] at result same
    rw [stops f result.symm, List.append_nil]
    exact same
  · rw [ended] at result same
    rw [← same]
    exact rest a result.symm t'

namespace Ssh

section Views

variable {β : Type} {view : Event → Option β}

/-- What shows neither that connections are made nor the users' names shows nothing of dialing. -/
theorem dial_filterMap (connecting : view .connected = none)
    (naming : ∀ user, view (.seen (.user user)) = none) (c : Context) (w : World) (t : Trace) :
    (dial c w t).2.connections.filterMap (fun entry => view entry.2) =
      t.connections.filterMap fun entry => view entry.2 := by
  have greeted {users : List String} (log : (dial c w t).2.connections =
      t.connections ++ greeting t.connectionCount users) :
      (dial c w t).2.connections.filterMap (fun entry => view entry.2) =
        t.connections.filterMap fun entry => view entry.2 := by
    rw [log, List.filterMap_append]
    simp [greeting, heardOn, connecting, naming]
  rcases dial_cases c w with ⟨f, fails⟩ | ⟨target, server, succeeds⟩
  · rcases (fails t).2 with quiet | ⟨users, log⟩
    · rw [quiet]
    · exact greeted log
  · exact greeted (succeeds t).2

/-- What does not show that connections are closed shows nothing of closing one. -/
theorem Connection.close_filterMap (closing : view .closed = none) (connection : Connection)
    (w : World) (t : Trace) :
    (connection.close w t).2.connections.filterMap (fun entry => view entry.2) =
      t.connections.filterMap fun entry => view entry.2 := by
  rw [close]
  split
  · rfl
  · simp [noteEvent, Act.note, closing]

end Views

theorem dial_commandLines (c : Context) (w : World) (t : Trace) :
    (dial c w t).2.commandLines = t.commandLines := dial_filterMap rfl (fun _ => rfl) c w t

namespace Connection

variable {connection : Connection} {w : World}

theorem close_commandLines (t : Trace) :
    (connection.close w t).2.commandLines = t.commandLines := close_filterMap rfl connection w t

/-- Whether a server starts the command that it is asked for. -/
def starts (connection : Connection) : Bool :=
  connection.readied.isOk && connection.grants .command

theorem overlooks_commandLines {s : Seen} (other : (Event.seen s).command? = none) :
    Overlooks Trace.commandLines s := by
  intro t n
  rw [Trace.commandLines_append rfl]
  simp [other]

theorem converse_tells (line : String) : (connection.converse line).Tells w [] := by
  have heard (s : Session.State) :
      (connection.heard s).filterMap (fun entry => entry.2.command?) = [] := by
    rw [Connection.heard]
    split <;> rfl
  exact fun t => (Trace.commandLines_append rfl).trans (by rw [heard])

/-- Running a command line gives the server this line, and no other. -/
theorem run_tells (line : String) :
    (connection.run line).Tells w (if connection.starts then [line] else []) := by
  have none {s : Seen} (other : (Event.seen s).command? = none) := overlooks_commandLines other
  refine (openSession_comesTo (none rfl)).tells
    (fun f fails => by rw [starts, readied, fails]; rfl) fun _ opens => ?_
  intro t
  rw [Act.look_bind]
  refine (reach_comesTo Trace.commandLines _ _).tells
    (fun f fails => by rw [starts, readied, opens, fails]; rfl) (fun _ lasts => ?_) t
  refine (request_comesTo _ (none rfl)).tells (fun f fails => by cases fails) fun _ _ => ?_
  refine (reach_comesTo Trace.commandLines _ _).tells
    (fun f fails => by rw [starts, readied, opens, lasts, fails]; rfl) fun _ still => ?_
  have readied : connection.readied = .ok () := by rw [readied, opens, lasts, still]; rfl
  rw [starts, readied, request]
  cases connection.grants .command with
  | false => exact converse_tells line
  | true =>
      intro t
      let asked : Trace :=
        { t with connections := t.connections ++ [(connection.number, .seen (.command line))] }
      have conversed : (connection.converse line w asked).2.commandLines =
          asked.commandLines ++ [] := converse_tells line asked
      have log : asked.connections =
          t.connections ++ [(connection.number, .seen (.command line))] := rfl
      refine conversed.trans ?_
      rw [List.append_nil, Trace.commandLines_append log]
      rfl

end Connection

/-- What is done on a host gives its server the command lines that the work gives it. -/
theorem onHost_commandLines {c : Context} {w : World} {α : Type} {work : Connection → Act α}
    {lines : Connection → List String}
    (tells : ∀ connection, (work connection).Tells w (lines connection)) (t : Trace) :
    (onHost c work w t).2.commandLines =
      t.commandLines ++ ((dial c w t).1.toOption.map lines).getD [] := by
  have dialed := dial_commandLines c w t
  rcases ended : dial c w t with ⟨f | connection, t₁⟩
  · rw [onHost, Act.bind_error ended]
    rw [ended] at dialed
    rw [dialed]
    exact (List.append_nil _).symm
  · rw [ended] at dialed
    rw [onHost_apply ended, Connection.close_commandLines, tells connection t₁, dialed]
    rfl

end Ssh

/-! ## Programs -/

section Running

variable {c : Context} {w : World} {t : Trace} {command : Shell.Command}

/-- What runs on this machine is the command itself. -/
theorem Session.runCommand_here (here : c.kind = .here) :
    RanHere c command w t (runCommand c command w t).2 := by
  rw [runCommand, here]
  exact runHere_ran c command w t

/-- What runs on another host is one line, in which a shell reads the command back. -/
theorem Session.runCommand_far (remote : c.kind = .remote) :
    (runCommand c command w t).2.started = t.started ∧
      (runCommand c command w t).2.commandLines = t.commandLines ++
        if (Ssh.dial c w t).1.toOption.any (·.starts) then [Shell.remoteLine c command]
        else [] := by
  have hosts : Permit.AllowsHosts { program := fun _ => False } :=
    ⟨fun _ => trivial, fun _ => trivial⟩
  rw [runCommand_remote remote]
  refine ⟨?_, ?_⟩
  · have starts : (Ssh.onHost c fun connection =>
        connection.run (Shell.remoteLine c command)).Obeys w { program := fun _ => False }
          fun _ => True :=
      Ssh.onHost_obeys hosts fun connection _ => connection.run_obeys hosts
    exact (starts t).1.started.eq_of_forbidden
  · rw [Ssh.onHost_commandLines (fun connection => connection.run_tells _)]
    cases (Ssh.dial c w t).1 with
    | error f => rfl
    | ok connection => rfl

end Running

namespace Program

open CommandLine (Command)

/-- Whether the project of a context has the files that compose needs. -/
def hasProject (c : Context) (w : World) : Bool :=
  Compose.hasComposeFile w.files c ((c.directory? w.environment.home).getD "")

/-- A command of the program runs one other command, where the project is. On this machine
a child is started with the words of this command, if it can be and the project is ready, and
nothing else happens; on another host its line is what the server is given, if the connection
gets as far as that. -/
structure Runs (c : Context) (command : Command) (ready : World → Bool)
    (child : Shell.Command) : Prop where
  here : c.kind = .here → ∀ w t,
    if ready w then Session.RanHere c child w t (perform c command w t).2
    else (perform c command w t).2 = t
  far : c.kind = .remote → ∀ w t,
    (perform c command w t).2.started = t.started ∧
    (perform c command w t).2.commandLines = t.commandLines ++
      if (Ssh.dial c w t).1.toOption.any (·.starts) then [Shell.remoteLine c child] else []

variable {c : Context}

theorem bind_pure_trace {α β : Type} {act : Act α} {f : α → β} (w : World) (t : Trace) :
    ((act >>= fun a => pure (f a)) w t).2 = (act w t).2 := by
  rw [Act.bind_apply]
  rcases act w t with ⟨_ | a, t'⟩ <;> rfl

theorem make_runs (words : List String) :
    Runs c (.make words) (fun _ => true) ⟨"make", words⟩ := by
  have same (w : World) (t : Trace) : (perform c (.make words) w t).2 =
      (Session.runCommand c ⟨"make", words⟩ w t).2 := by
    exact (bind_pure_trace w t).trans (bind_pure_trace w t)
  refine ⟨fun here w t => ?_, fun remote w t => ?_⟩
  · rw [if_pos rfl, same]
    exact Session.runCommand_here here
  · rw [same]
    exact Session.runCommand_far remote

/-- Compose is run with accepted words, on this machine only where there is a project. -/
theorem compose_trace {words args : List String}
    (accepted : Compose.arguments c words = .ok args) (w : World) (t : Trace) :
    (perform c (.compose words) w t).2 =
      if c.isRemote || hasProject c w then (Session.runCommand c ⟨"docker", args⟩ w t).2
      else t := by
  refine (bind_pure_trace w t).trans ?_
  rw [compose, accepted, Act.bind_ok rfl]
  cases isRemote : c.isRemote with
  | true => exact bind_pure_trace w t
  | false =>
      cases ready : hasProject c w with
      | true =>
          have checked : Compose.ensureComposeFile c w t = (.ok (), t) := by
            rw [hasProject] at ready
            simp [Compose.ensureComposeFile, Act.examine, ready]
          refine Eq.trans (congrArg Prod.snd (Act.bind_ok checked)) (bind_pure_trace w t)
      | false =>
          have checked : Compose.ensureComposeFile c w t = (.error (.config (.noComposeFile
              ((c.directory? w.environment.home).getD ""))), t) := by
            rw [hasProject] at ready
            simp [Compose.ensureComposeFile, Act.examine, ready]
          exact congrArg Prod.snd (Act.bind_error checked)

theorem compose_runs {words : List String} {args : List String}
    (accepted : Compose.arguments c words = .ok args) :
    Runs c (.compose words) (hasProject c) ⟨"docker", args⟩ := by
  refine ⟨fun here w t => ?_, fun remote w t => ?_⟩
  · have isHere : c.isRemote = false := by simp [Context.isRemote, here]
    rw [compose_trace accepted, isHere, Bool.false_or]
    cases hasProject c w with
    | true => exact Session.runCommand_here here
    | false => rfl
  · have isRemote : c.isRemote = true := by simp [Context.isRemote, remote]
    rw [compose_trace accepted, isRemote, Bool.true_or]
    exact Session.runCommand_far remote

end Program

/-! ## Execs -/

/-- The exec that is asked for: its container and what it is created with. -/
def Docker.Request.created? : Docker.Request → Option (String × Docker.ExecConfig)
  | .createExec container config => some (container, config)
  | _ => none

/-- The execs that daemons have been asked for. -/
def Trace.created (t : Trace) : List (String × Docker.ExecConfig) :=
  t.requests.filterMap Docker.Request.created?

/-- No exec is asked for. -/
def Permit.execless : Permit := { request := fun r => r.created? = none }

theorem Permit.execless_asks : Permit.execless.AllowsAbout fun _ => False := by
  intro r about
  cases r with
  | createExec container config => exact absurd (about container rfl) id
  | _ => rfl

theorem Permit.execless_hosts : Permit.execless.AllowsHosts :=
  ⟨fun _ => trivial, fun _ => trivial⟩

namespace Act

variable {α β : Type} {w : World} {t : Trace} {kind : List (String × Docker.ExecConfig) → Prop}

theorem Obeys.created_eq {act : Act α} {gives : α → Prop} (obeys : act.Obeys w .execless gives)
    (t : Trace) : (act w t).2.created = t.created := by
  obtain ⟨new, added, none⟩ := (obeys t).1.requests
  rw [Trace.created, added, List.filterMap_append, Trace.created,
    List.filterMap_eq_nil_iff.mpr none, List.append_nil]

/-- An act asks for execs of some kind. -/
def Creates (act : Act α) (w : World) (kind : List (String × Docker.ExecConfig) → Prop) : Prop :=
  ∀ t, ∃ new, (act w t).2.created = t.created ++ new ∧ kind new

/-- An act that asks for no exec comes before one that may. -/
theorem Creates.after {act : Act α} {next : α → Act β} {gives : α → Prop}
    (first : act.Obeys w .execless gives) (nothing : kind [])
    (second : ∀ a, (next a).Creates w kind) : (act >>= next).Creates w kind := by
  intro t
  have same := first.created_eq t
  rw [bind_apply]
  rcases ended : act w t with ⟨_ | a, t'⟩
  · rw [ended] at same
    exact ⟨[], by rw [List.append_nil]; exact same, nothing⟩
  · rw [ended] at same
    rw [← same]
    exact second a t'

theorem Creates.ensuring {act : Act α} {last : Act Unit} (creates : act.Creates w kind)
    (closing : last.Obeys w .execless fun _ => True) :
    (act.ensuring last).Creates w kind := by
  intro t
  obtain ⟨new, added, good⟩ := creates t
  exact ⟨new, (closing.created_eq _).trans added, good⟩

/-- An act that asks for no exec comes after one that may. -/
theorem bind_created {act : Act α} {next : α → Act β}
    (silent : ∀ a, (next a).Obeys w .execless fun _ => True) :
    ((act >>= next) w t).2.created = (act w t).2.created := by
  rw [bind_apply]
  rcases act w t with ⟨_ | a, after⟩
  · rfl
  · exact (silent a).created_eq after

end Act

section Execs

variable {c : Context} {w : World} {t : Trace}

theorem Compose.findContainer_execless {client : Docker.Client} {service : String} :
    (findContainer client c service).Obeys w .execless fun _ => True := by
  refine (containerName_obeys Permit.execless_asks).bind fun name? _ => ?_
  split
  · exact Act.obeys_pure trivial
  · exact Act.obeys_fail

/-- Connecting to a daemon asks for no exec. -/
theorem Docker.withDaemon_creates {α : Type} {work : Link → Act α}
    {kind : List (String × ExecConfig) → Prop} (nothing : kind [])
    (creates : ∀ l, (work l).Creates w kind) : (withDaemon c work).Creates w kind := by
  cases place : c.kind with
  | here =>
      rw [withDaemon, place]
      refine .after Act.obeys_examine nothing fun socket => ?_
      exact .after (connectSocket_obeys Permit.execless_asks) nothing fun client => creates _
  | remote =>
      rw [withDaemon_remote place]
      refine .after (Ssh.dial_obeys Permit.execless_hosts) nothing fun connection => ?_
      refine Act.Creates.ensuring (.after (connectThrough_obeys Permit.execless_asks
        Permit.execless_hosts) nothing fun client => creates _) ?_
      exact Ssh.Connection.close_obeys Permit.execless_hosts

/-- A run in a container asks for one exec, the one that it is about. -/
theorem Exec.run_created {client : Docker.Client} {o : Options} {input : Option Bytes} :
    (run client o input w t).2.created = t.created ++ [(o.container, o.config)] := by
  refine Eq.trans (Act.bind_created fun exec => ?_) ?_
  · refine (Docker.Client.startExec_obeys Permit.execless_asks).bind fun started _ => ?_
    refine follow_obeys.bind fun _ _ => ?_
    refine (Docker.Client.inspectExec_obeys Permit.execless_asks).bind fun code _ => ?_
    split
    · exact Act.obeys_pure trivial
    · exact Act.obeys_fail
  · rw [Trace.created, Docker.Client.createExec, Docker.askFor_requests, List.filterMap_append]
    rfl

/-- In raw mode work asks for the execs that it asks for without, unless raw mode cannot be
entered. -/
theorem Act.inRawMode_created {α : Type} {act : Act α} {execs : List (String × Docker.ExecConfig)}
    (creates : (act w t).2.created = t.created ++ execs) :
    (act.inRawMode w t).2.created = t.created ++
      if w.terminal.isTerminal && w.terminal.failsEnabling then [] else execs := by
  simp only [Act.inRawMode, Terminal.withRawMode]
  cases w.terminal.isTerminal with
  | false => exact creates
  | true =>
      cases w.terminal.failsEnabling with
      | true => exact (List.append_nil _).symm
      | false => exact creates

namespace Program

open CommandLine (ExecRequest)

/-- Whether a request is carried out with a terminal. -/
def interacts (w : World) (r : ExecRequest) : Bool := !r.noTty && w.terminal.isTerminal

/-- What the exec of a request is created with in a container. -/
def execConfig (w : World) (r : ExecRequest) (container : String) : Docker.ExecConfig :=
  (execOptions container (interacts w r) r).config

/-- What is done in a container for a request. -/
def runIn (client : Docker.Client) (r : ExecRequest) (container : String) : Act Int := do
  let terminal ← .look World.terminal
  let interactive := !r.noTty && terminal.isTerminal
  let options := execOptions container interactive r
  if interactive then Exec.runInteractive client options else Exec.runPlain client options

theorem exec_eq (c : Context) (r : ExecRequest) : exec c r =
    Docker.withDaemon c fun l => Compose.findContainer l.client c r.service >>= runIn l.client r :=
  rfl

/-- One exec is created for a request, unless it needs a terminal that cannot be put into raw
mode. -/
theorem runIn_created {client : Docker.Client} {r : ExecRequest} {container : String} :
    (runIn client r container w t).2.created = t.created ++
      if interacts w r && w.terminal.failsEnabling then []
      else [(container, execConfig w r container)] := by
  have step : runIn client r container w t =
      (if interacts w r then
        Exec.runInteractive client (execOptions container (interacts w r) r)
      else Exec.runPlain client (execOptions container (interacts w r) r)) w t := rfl
  rw [step, execConfig]
  cases interactive : interacts w r with
  | false => exact Exec.run_created
  | true =>
      have isTerminal : w.terminal.isTerminal = true := by
        rw [interacts, Bool.and_eq_true] at interactive
        exact interactive.2
      have created : (Exec.run client (execOptions container true r).interactive
          (some w.stdin) w t).2.created =
          t.created ++ [(container, (execOptions container true r).config)] := Exec.run_created
      have all := Act.inRawMode_created created
      rw [isTerminal] at all
      exact all

/-- What is created for a request. -/
theorem exec_creates (c : Context) (r : ExecRequest) (w : World) :
    (exec c r).Creates w fun new =>
      new = [] ∨ ∃ container, new = [(container, execConfig w r container)] := by
  rw [exec_eq]
  refine Docker.withDaemon_creates (.inl rfl) fun l => ?_
  refine .after Compose.findContainer_execless (.inl rfl) fun container t => ?_
  refine ⟨_, runIn_created, ?_⟩
  split
  · exact .inl rfl
  · exact .inr ⟨container, rfl⟩

/-- What is created for a request whose container is found. -/
theorem exec_created {r : ExecRequest} {container : String}
    (found : (Docker.withDaemon c (fun l => Compose.findContainer l.client c r.service) w t).1 =
      .ok container) :
    (exec c r w t).2.created = t.created ++
      if interacts w r && w.terminal.failsEnabling then []
      else [(container, execConfig w r container)] := by
  rcases Docker.withDaemon_cases w c t with ⟨f, after, -, -, fails⟩ | ⟨l, start, reaches⟩
  · rw [fails] at found
    cases found
  rw [reaches.result] at found
  have looked : (Compose.findContainer l.client c r.service w start).2.created = start.created :=
    Compose.findContainer_execless.created_eq start
  rcases ended : Compose.findContainer l.client c r.service w start with ⟨f | name, t'⟩
  · rw [ended] at found
    cases found
  rw [ended] at found looked
  cases found
  have same : start.created = t.created := by
    rw [Trace.created, reaches.requests, List.filterMap_append]
    exact List.append_nil _
  have asked : (exec c r w t).2.created = (runIn l.client r container w t').2.created := by
    rw [Trace.created, exec_eq, reaches.asked, Act.bind_ok ended, Trace.created]
  rw [asked, runIn_created, looked, same]

end Program

end Execs

/-! ## The guarantee -/

namespace Program

open CommandLine (Command ExecRequest isPlainWord usualRequest)

/-- The user's words are passed on as they are.  After the name of a command (and of a service)
and a first word that is neither empty nor starts with a dash, all that follows belongs to the
command, whatever it looks like: neither the context nor the level of logs nor the flags of an
exec are read from it, also not behind options that were given before.  Compose runs docker with
the flags of the context, these words and the flags added to them, and make runs with these
words: on this machine that is the argument vector of the one child that is started, whose
output is what is shown, and on another host it is what a shell reads back from the one line
that the server is given.  An exec is created with just these words. -/
theorem words_pass_through (first : String) (rest : List String) :
    (isPlainWord first = true → ∀ e,
      CommandLine.read e ("compose" :: first :: rest) =
        .ok (usualRequest e (.compose (first :: rest))) ∧
      CommandLine.read e ("make" :: first :: rest) =
        .ok (usualRequest e (.make (first :: rest))) ∧
      ∀ service, isPlainWord service = true →
        CommandLine.read e ("exec" :: service :: first :: rest) =
          .ok (usualRequest e (.exec ⟨false, none, none, [], service, first :: rest⟩))) ∧
    (∀ e line q, CommandLine.read e (line ++ [first]) = .ok q → q.command.passed = [first] →
      CommandLine.read e (line ++ first :: rest) =
        .ok { q with command := q.command.pass rest }) ∧
    (∀ c, Compose.subcommands.contains first = true →
      Runs c (.compose (first :: rest)) (hasProject c)
        ⟨"docker", "compose" :: Compose.contextFlags c ++
          (first :: rest ++ Compose.addedFlags (first :: rest))⟩) ∧
    (∀ c, Runs c (.make (first :: rest)) (fun _ => true) ⟨"make", first :: rest⟩) ∧
    (∀ c command, Shell.readBack (Shell.remoteLine c command) = some (
      (if c.projectDir.isEmpty then [] else [.word "cd", .word c.projectDir, .operator .both]) ++
      (if c.useSudo then [.word "sudo"] else []) ++ command.words.map .word)) ∧
    ∀ c (flags : ExecRequest) w t,
      let r := { flags with command := first :: rest }
      let created := (perform c (.exec r) w t).2.created
      (∀ container, (execConfig w r container).command = first :: rest) ∧
      (created = t.created ∨
        ∃ container, created = t.created ++ [(container, execConfig w r container)]) ∧
      ∀ container, (interacts w r && w.terminal.failsEnabling) = false →
        (Docker.withDaemon c (fun l => Compose.findContainer l.client c r.service) w t).1 =
          .ok container →
        created = t.created ++ [(container, execConfig w r container)] := by
  refine ⟨fun plain e => ⟨?_, ?_, fun service plainService => ?_⟩, fun e line q reads passes => ?_,
    fun c known => ?_, fun c => make_runs _, fun c command => ?_, fun c flags w t => ?_⟩
  · exact CommandLine.read_append (CommandLine.read_compose plain e) (List.cons_ne_nil _ _) rest
  · exact CommandLine.read_append (CommandLine.read_make plain e) (List.cons_ne_nil _ _) rest
  · exact CommandLine.read_append (CommandLine.read_exec plain e plainService)
      (List.cons_ne_nil _ _) rest
  · have all := CommandLine.read_append reads (by simp [passes]) rest
    rwa [List.append_assoc] at all
  · refine compose_runs ?_
    rw [Compose.arguments]
    exact if_pos known
  · obtain ⟨line, -⟩ := Shell.reads_remoteLine c command
    simp only [Shell.readBack, line, List.mapM_append, Shell.lexemes_leading, Shell.lexemes_words]
    rfl
  · intro r created
    have traced : (perform c (.exec r) w t).2 = (exec c r w t).2 := by
      rw [perform, map_eq_pure_bind]
      exact bind_pure_trace w t
    have same : created = (exec c r w t).2.created := congrArg Trace.created traced
    refine ⟨fun container => ?_, ?_, fun container enters found => ?_⟩
    · rw [execConfig]
      cases interacts w r <;> rfl
    · obtain ⟨new, added, rfl | ⟨container, rfl⟩⟩ := exec_creates c r w t
      · exact .inl (by rw [same, added, List.append_nil])
      · exact .inr ⟨container, same.trans added⟩
    · rw [same, exec_created found, enters]
      rfl

/-- Words that look like options of the program, a double dash and an empty word. -/
def trickyWords : List String := ["--context", "prod", "--", "-h", "", "-T", "--log-level"]

/-- Behind an option and a first word, tricky words are compose's, and the museum's host is given
all of them. -/
theorem tricky_words_passed :
    (CommandLine.read ⟨[]⟩ (["--context", "museum", "compose", "up"] ++ trickyWords)).toOption =
      some ⟨some "museum", "info", .compose ("up" :: trickyWords)⟩ ∧
    (perform Ssh.museum (.compose ("up" :: trickyWords)) (Ssh.familiar []) {}).2.commandLines =
      ["cd /srv/museum && docker compose up --context prod -- -h '' -T --log-level " ++
        "-d --remove-orphans"] := by
  obtain ⟨-, behind, composing, -⟩ := words_pass_through "up" trickyWords
  have reads : CommandLine.read ⟨[]⟩ (["--context", "museum", "compose"] ++ ["up"]) =
      .ok ⟨some "museum", "info", .compose ["up"]⟩ := rfl
  have reaches : (Ssh.dial Ssh.museum (Ssh.familiar []) {}).1.toOption.any (·.starts) = true := by
    decide +kernel
  refine ⟨congrArg Except.toOption (behind _ _ _ reads rfl), ?_⟩
  rw [((composing Ssh.museum (by decide)).far rfl (Ssh.familiar []) {}).2, reaches]
  decide +kernel

end Program

end ComposeSite
