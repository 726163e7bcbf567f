/-
# ComposeSite.Proofs.Program.Conduct -- what the program does to the outside world

Each act of the program obeys every permit that covers what it is for: the requests it
sends, the programs it starts, and, if its context is on another host, what happens on
connections and which keys are read.  A context that is on this machine needs no permit
for hosts (`withDaemon_obeys`, `readText_obeys`, `runCommand_obeys`).

`LeadsTo` says which daemon a context leads to in a world; nothing else is asked for
anything.  `perform_obeys` puts the acts together: a command is covered by a permit under
which daemons may be asked about the containers that its lookups find.
-/
import ComposeSite.Program.Run
import ComposeSite.Proofs.Act.Permit
import ComposeSite.Proofs.Session.Local

set_option autoImplicit false

namespace ComposeSite

/-- The container that a request is about. -/
def Docker.Request.container? : Docker.Request → Option String
  | .inspect container => some container
  | .createExec container _ => some container
  | _ => none

namespace Permit

/-- Daemons may be asked about containers of some names, and whatever is about none. -/
def AllowsAbout (p : Permit) (good : String → Prop) : Prop :=
  ∀ r : Docker.Request, (∀ name ∈ r.container?, good name) → p.request r

/-- Hosts may be dialed and worked on. -/
structure AllowsHosts (p : Permit) : Prop where
  event : ∀ e, p.event e
  key : ∀ path, p.key path

end Permit

/-- The daemon that a context leads to in a world. -/
inductive LeadsTo (w : World) (c : Context) (d : Docker.Daemon) : Prop where
  | here {socket : String} (kind : c.kind = .here)
      (alive : Docker.resolveLocal w.environment w.files c.dockerSocket = .ok socket)
      (listens : w.daemonAt? socket = some d)
  | remote {target : Ssh.Target} {server : Ssh.Server} (kind : c.kind = .remote)
      (addressed : c.sshTarget w.environment.home = .ok target)
      (answers : w.network target.hostname target.port = .ok server)
      (listens : server.daemons.lookup (Docker.socketPath c.dockerSocket) = some d)

variable {w : World} {p : Permit} {good : String → Prop} {c : Context}

/-! ## Hosts -/

namespace Ssh

theorem noteEvent_obeys {number : Nat} {e : Event} (allowed : p.event e) :
    (noteEvent number e).Obeys w p fun _ => True :=
  Act.obeys_note fun _ => ⟨.refl _, .single _ allowed, .refl _, .refl _⟩

variable (hosts : p.AllowsHosts)

include hosts

theorem Connection.close_obeys {connection : Connection} :
    connection.close.Obeys w p fun _ => True := by
  intro t
  rw [Connection.close]
  split
  · exact ⟨.refl t, fun _ _ => trivial⟩
  · exact noteEvent_obeys (hosts.event _) t

theorem Connection.sees_obeys {connection : Connection} {s : Seen} :
    (connection.sees s).Obeys w p fun _ => True :=
  noteEvent_obeys (hosts.event _)

theorem introduce_obeys {number : Nat} {target : Target} {server : Server} :
    (introduce number target server).Obeys w p fun connection => connection.server = server := by
  refine Act.obeys_examine.bind fun _ _ => (noteEvent_obeys (hosts.event _)).bind fun _ _ => ?_
  split
  · exact Act.obeys_fail
  · exact Act.obeys_pure rfl

/-- A connection leads to the server that answers for its target. -/
theorem connect_obeys {target : Target} :
    (connect target).Obeys w p fun connection =>
      w.network target.hostname target.port = .ok connection.server := by
  refine Act.obeys_examine.bind fun server found => ?_
  have answers : w.network target.hostname target.port = .ok server := by
    cases reached : w.network target.hostname target.port with
    | error why => rw [reached] at found; cases found
    | ok answering => rw [reached] at found; cases found; rfl
  have counting : nextNumber.Obeys w p fun _ => True := fun t => ⟨.refl t, fun _ _ => trivial⟩
  refine counting.bind fun number _ => (noteEvent_obeys (hosts.event _)).bind fun _ _ => ?_
  refine (introduce_obeys hosts).weaken fun connection same => ?_
  rw [same, answers]

theorem readKey_obeys {target : Target} : (readKey target).Obeys w p fun _ => True := by
  refine Act.Obeys.bind (Act.obeys_note fun _ => ?_) fun _ _ =>
    Act.obeys_examine.weaken fun _ _ => trivial
  exact ⟨.refl _, .refl _, .single _ (hosts.key _), .refl _⟩

/-- Dialing leads to the server that answers for the target of the context. -/
theorem dial_obeys :
    (dial c).Obeys w p fun connection => ∃ target, c.sshTarget w.environment.home = .ok target ∧
      w.network target.hostname target.port = .ok connection.server := by
  refine Act.obeys_examine.bind fun target addressed => (readKey_obeys hosts).bind fun _ _ => ?_
  exact (connect_obeys hosts).blaming.weaken fun connection answers => ⟨target, addressed, answers⟩

theorem onHost_obeys {α : Type} {work : Connection → Act α} {gives : α → Prop}
    (allowed : ∀ connection, (∃ target, c.sshTarget w.environment.home = .ok target ∧
      w.network target.hostname target.port = .ok connection.server) →
        (work connection).Obeys w p gives) :
    (onHost c work).Obeys w p gives :=
  (dial_obeys hosts).bind fun connection reached =>
    (allowed connection reached).ensuring (Connection.close_obeys hosts)

namespace Connection

variable {connection : Connection}

omit hosts in
theorem reach_obeys {point : Point} {lost : SshFailure} :
    (connection.reach point lost).Obeys w p fun _ => True := by
  rw [reach]
  split
  · exact Act.obeys_fail
  · exact Act.obeys_pure trivial

theorem openSession_obeys : connection.openSession.Obeys w p fun _ => True := by
  refine reach_obeys.bind fun _ _ => ?_
  split
  · exact sees_obeys hosts
  · exact Act.obeys_fail

theorem request_obeys {r : Refusal} {seen : Seen} :
    (connection.request r seen).Obeys w p fun _ => True := by
  rw [request]
  split
  · exact sees_obeys hosts
  · exact Act.obeys_pure trivial

theorem converse_obeys {line : String} : (connection.converse line).Obeys w p fun _ => True :=
  fun _ => ⟨⟨.refl _, ⟨_, rfl, fun _ _ => hosts.event _⟩, .refl _, .refl _⟩, fun _ _ => trivial⟩

theorem run_obeys {line : String} : (connection.run line).Obeys w p fun _ => True := by
  refine (openSession_obeys hosts).bind fun _ _ => Act.obeys_look.bind fun terminal _ => ?_
  refine reach_obeys.bind fun _ _ => (request_obeys hosts).bind fun _ _ => ?_
  refine reach_obeys.bind fun _ _ => (request_obeys hosts).bind fun _ _ => ?_
  exact converse_obeys hosts

theorem readText_obeys {path : String} : (connection.readText path).Obeys w p fun _ => True := by
  refine (openSession_obeys hosts).bind fun _ _ => reach_obeys.bind fun _ _ => ?_
  refine (sees_obeys hosts).bind fun _ _ => reach_obeys.bind fun _ _ => ?_
  refine (sees_obeys hosts).bind fun _ _ => ?_
  exact Act.obeys_ofResult.weaken fun _ _ => trivial

theorem openSocket_obeys {path : String} :
    (connection.openSocket path).Obeys w p fun d =>
      connection.server.daemons.lookup path = some d := by
  refine (sees_obeys hosts).bind fun _ _ => ?_
  split
  · exact Act.obeys_pure ‹_›
  · exact Act.obeys_fail

end Connection

end Ssh

/-! ## Daemons -/

namespace Docker

variable {client : Client}

theorem ask_obeys {d : Daemon} {r : Request} (allowed : p.request r) :
    (ask d r).Obeys w p fun _ => True :=
  fun _ => ⟨⟨.single _ allowed, .refl _, .refl _, .refl _⟩, fun _ _ => trivial⟩

theorem askFor_obeys {α : Type} {d : Daemon} {r : Request} {operation : DockerOperation}
    {target : String} {reader : Json.Reader α} (allowed : p.request r) :
    (askFor d r operation target reader).Obeys w p fun _ => True :=
  (ask_obeys allowed).bind fun _ _ => Act.obeys_ofResult.weaken fun _ _ => trivial

variable (asks : p.AllowsAbout good)

include asks

theorem negotiate_obeys {d : Daemon} {socket : String} :
    (negotiate d socket).Obeys w p fun client => client.daemon = d := by
  refine (askFor_obeys (asks _ (by simp [Request.container?]))).bind fun stated _ => ?_
  split
  · exact Act.obeys_pure rfl
  · exact Act.obeys_fail

theorem connectSocket_obeys {socket : String} :
    (connectSocket socket).Obeys w p fun client => w.daemonAt? socket = some client.daemon := by
  refine Act.obeys_examine.bind fun d found => ?_
  have listens : w.daemonAt? socket = some d := by
    split at found
    · cases found
    · split at found
      · cases found; assumption
      · cases found
  exact (negotiate_obeys asks).weaken fun client same => by rw [same, listens]

theorem connectThrough_obeys {connection : Ssh.Connection} {path : String}
    (hosts : p.AllowsHosts) :
    (connectThrough connection path).Obeys w p fun client =>
      connection.server.daemons.lookup path = some client.daemon := by
  refine Act.obeys_look.bind fun proxy _ => ?_
  refine (Ssh.Connection.openSocket_obeys hosts).attempt.bind fun reached listens => ?_
  split
  · exact (negotiate_obeys asks).weaken fun client same => by rw [same, listens _ rfl]
  · exact Act.obeys_fail

/-- Work with the daemon of a context. -/
theorem withDaemon_obeys {α : Type} {work : Link → Act α} {gives : α → Prop}
    (hosts : c.kind = .remote → p.AllowsHosts)
    (allowed : ∀ l, LeadsTo w c l.client.daemon → (work l).Obeys w p gives) :
    (withDaemon c work).Obeys w p gives := by
  rw [withDaemon]
  cases kind : c.kind with
  | here =>
      refine Act.obeys_examine.bind fun socket alive => ?_
      exact (connectSocket_obeys asks).bind fun client listens =>
        allowed _ (.here kind alive listens)
  | remote =>
      refine Ssh.onHost_obeys (hosts kind) fun connection ⟨target, addressed, answers⟩ => ?_
      exact (connectThrough_obeys asks (hosts kind)).bind fun client listens =>
        allowed _ (.remote kind addressed answers listens)

theorem Client.list_obeys {labels : List String} :
    (client.list labels).Obeys w p fun _ => True :=
  askFor_obeys (asks _ (by simp [Request.container?]))

theorem Client.inspect_obeys {container : String} (allowed : good container) :
    (client.inspect container).Obeys w p fun _ => True :=
  askFor_obeys (asks _ (by simpa [Request.container?] using allowed))

theorem Client.createExec_obeys {container : String} {config : ExecConfig}
    (allowed : good container) : (client.createExec container config).Obeys w p fun _ => True :=
  askFor_obeys (asks _ (by simpa [Request.container?] using allowed))

theorem Client.inspectExec_obeys {exec : String} :
    (client.inspectExec exec).Obeys w p fun _ => True :=
  askFor_obeys (asks _ (by simp [Request.container?]))

theorem Client.startExec_obeys {exec : String} {tty : Bool} :
    (client.startExec exec tty).Obeys w p fun _ => True := by
  rw [Client.startExec]
  split
  · exact Act.obeys_fail
  · exact (ask_obeys (asks _ (by simp [Request.container?]))).bind fun _ _ =>
      Act.obeys_ofResult.weaken fun _ _ => trivial

end Docker

/-! ## Files and programs -/

theorem Context.readText_obeys {path : String} (hosts : c.kind = .remote → p.AllowsHosts) :
    (c.readText path).Obeys w p fun _ => True := by
  rw [Context.readText]
  cases kind : c.kind with
  | here => exact Act.obeys_examine.weaken fun _ _ => trivial
  | remote =>
      exact Ssh.onHost_obeys (hosts kind) fun _ _ => Ssh.Connection.readText_obeys (hosts kind)

theorem Session.launch_obeys {child : Script.Start} (allowed : p.program child.command) :
    (launch child).Obeys w p fun _ => True := by
  intro t
  rw [launch]
  split
  · exact ⟨⟨.refl _, .refl _, .refl _, .single _ allowed⟩, fun _ _ => trivial⟩
  · exact ⟨.refl t, fun _ _ => trivial⟩

theorem Session.hear_obeys {line : String} {o : Script.Outcome} :
    (hear line o).Obeys w p fun _ => True :=
  fun _ => ⟨⟨.refl _, .refl _, .refl _, .refl _⟩, fun _ _ => trivial⟩

theorem Session.runCommand_obeys {command : Shell.Command}
    (hosts : c.kind = .remote → p.AllowsHosts) (allowed : p.program command) :
    (Session.runCommand c command).Obeys w p fun _ => True := by
  rw [Session.runCommand]
  cases kind : c.kind with
  | here =>
      refine Act.obeys_examine.bind fun child ready => ?_
      have same : child.command = command := by
        cases found : childHere w c command with
        | error f =>
            rw [found] at ready
            cases ready
        | ok start =>
            rw [found] at ready
            cases ready
            exact (childHere_eq_ok.mp found).command_eq
      refine (launch_obeys (by rw [same]; exact allowed)).bind fun ran _ => ?_
      split
      · exact hear_obeys
      · exact Act.obeys_fail
  | remote =>
      exact Ssh.onHost_obeys (hosts kind) fun _ _ => Ssh.Connection.run_obeys (hosts kind)

/-! ## Containers -/

section Containers

variable {client : Docker.Client} {service container : String}

namespace Compose

variable (asks : p.AllowsAbout good)

include asks

theorem containerName_obeys {withProfile : Bool} :
    (containerName client c service withProfile).Obeys w p fun _ => True :=
  (Docker.Client.list_obeys asks).bind fun _ _ => Act.obeys_pure trivial

theorem findContainer_obeys
    (found : ∀ t name, (findContainer client c service w t).1 = .ok name → good name) :
    (findContainer client c service).Obeys w p good := by
  have covered : (findContainer client c service).Obeys w p fun _ => True := by
    refine (containerName_obeys asks).bind fun name? _ => ?_
    split
    · exact Act.obeys_pure trivial
    · exact Act.obeys_fail
  exact fun t => ⟨(covered t).1, found t⟩

theorem serviceAddress_obeys (allowed : good container) :
    (serviceAddress client c container).Obeys w p fun _ => True := by
  refine (Docker.Client.inspect_obeys asks allowed).bind fun inspection _ => ?_
  split
  · exact Act.obeys_pure trivial
  · exact Act.obeys_fail

theorem containerVariable_obeys {name : String} (allowed : good container) :
    (containerVariable client container name).Obeys w p fun _ => True :=
  (Docker.Client.inspect_obeys asks allowed).bind fun _ _ =>
    Act.obeys_ofResult.weaken fun _ _ => trivial

theorem secret_obeys {name : String} (hosts : c.kind = .remote → p.AllowsHosts)
    (allowed : good container) : (secret client c container name).Obeys w p fun _ => True := by
  refine (Docker.Client.inspect_obeys asks allowed).bind fun inspection _ => ?_
  split
  · exact Act.obeys_look.bind fun _ _ => Context.readText_obeys hosts
  · exact Act.obeys_ofResult.weaken fun _ _ => trivial

theorem databaseUris_obeys (hosts : c.kind = .remote → p.AllowsHosts)
    (found : ∀ t name,
      (findContainer client c c.databaseService w t).1 = .ok name → good name) :
    (databaseUris client c).Obeys w p fun _ => True := by
  refine (findContainer_obeys asks found).bind fun container allowed => ?_
  exact (secret_obeys asks hosts allowed).bind fun _ _ => Act.obeys_pure trivial

end Compose

namespace Exec

theorem follow_obeys {o : Options} {course : Course} {exec : String} {s : Docker.Started} :
    (follow client o course exec s).Obeys w p fun _ => True := by
  intro t
  simp only [follow]
  split
  · exact ⟨⟨.refl _, .refl _, .refl _, .refl _⟩, fun _ _ => trivial⟩
  · exact ⟨⟨.refl _, .refl _, .refl _, .refl _⟩, fun _ _ => trivial⟩

variable (asks : p.AllowsAbout good)

include asks

theorem run_obeys {o : Options} {input : Option Bytes} (allowed : good o.container) :
    (run client o input).Obeys w p fun _ => True := by
  refine (Docker.Client.createExec_obeys asks allowed).bind fun exec _ => ?_
  refine (Docker.Client.startExec_obeys asks).bind fun started _ => ?_
  refine follow_obeys.bind fun _ _ => ?_
  refine (Docker.Client.inspectExec_obeys asks).bind fun code _ => ?_
  split
  · exact Act.obeys_pure trivial
  · exact Act.obeys_fail

theorem runPlain_obeys {o : Options} (allowed : good o.container) :
    (runPlain client o).Obeys w p fun _ => True := by
  have obeys : (run client o.plain (some w.stdin)).Obeys w p fun _ => True :=
    run_obeys asks allowed
  intro t
  simp only [runPlain]
  exact obeys t

theorem runInteractive_obeys {o : Options} (allowed : good o.container) :
    (runInteractive client o).Obeys w p fun _ => True := by
  have obeys : (run client o.interactive (some w.stdin)).Obeys w p fun _ => True :=
    run_obeys asks allowed
  intro t
  simp only [runInteractive]
  exact obeys.inRawMode t

end Exec

namespace Forward

theorem bindPort_obeys {port : UInt16} : (bindPort port).Obeys w p fun _ => True := by
  intro t
  rw [bindPort]
  split
  · exact ⟨⟨.refl _, .refl _, .refl _, .refl _⟩, fun _ _ => trivial⟩
  · exact ⟨.refl t, fun _ _ => trivial⟩

theorem serve_obeys {l : Docker.Link} {routes : List Route} :
    (serve l routes).Obeys w p fun _ => True :=
  Act.obeys_look.bind fun _ _ => Act.obeys_printLines.bind fun _ _ =>
    Act.obeys_printLine.bind fun _ _ => Act.obeys_pure trivial

theorem setUp_obeys {spec : Spec} (asks : p.AllowsAbout good)
    (found : ∀ t name,
      (Compose.findContainer client c spec.service w t).1 = .ok name → good name) :
    (setUp c client spec).Obeys w p fun _ => True := by
  refine (Compose.findContainer_obeys asks found).bind fun container allowed => ?_
  refine (Compose.serviceAddress_obeys asks allowed).bind fun _ _ => ?_
  exact bindPort_obeys.bind fun _ _ => Act.obeys_pure trivial

end Forward

end Containers

/-! ## Commands -/

namespace Program

open CommandLine (Command)

/-- The services whose containers a command looks up, in order. -/
def services (c : Context) : Command → List String
  | .exec r => [r.service]
  | .secret service _ => [service]
  | .env service _ => [service]
  | .dbUri => [c.databaseService]
  | .portForward specs =>
      match Forward.Spec.parseAll specs with
      | .ok specs => specs.map (·.service)
      | .error _ => []
  | .compose _ => []
  | .make _ => []
  | .configShow => []

theorem execOptions_container {container : String} {interactive : Bool}
    {r : CommandLine.ExecRequest} :
    (execOptions container interactive r).container = container := by
  cases interactive <;> rfl

theorem showContext_obeys : (showContext c).Obeys w p fun _ => True :=
  Act.obeys_look.bind fun _ _ => Act.obeys_look.bind fun _ _ =>
    Act.obeys_printLines.bind fun _ _ => Act.obeys_pure trivial

/-- A command is covered by a permit under which programs may be started and daemons may be
asked about the containers that its lookups find; hosts matter to remote contexts only. -/
theorem perform_obeys {command : Command} (hosts : c.kind = .remote → p.AllowsHosts)
    (programs : ∀ started, p.program started) (asks : p.AllowsAbout good)
    (found : ∀ (client : Docker.Client), LeadsTo w c client.daemon →
      ∀ service ∈ services c command, ∀ t name,
        (Compose.findContainer client c service w t).1 = .ok name → good name) :
    (perform c command).Obeys w p fun _ => True := by
  cases command with
  | compose args =>
      refine Act.Obeys.seq ?_ fun _ => Act.obeys_pure trivial
      refine Act.obeys_ofResult.bind fun args _ => ?_
      have run : Act.Obeys (do
          let _ ← Session.runCommand c ⟨"docker", args⟩) w p fun _ => True :=
        (Session.runCommand_obeys hosts (programs _)).map
      split
      · exact (Act.obeys_examine.weaken fun _ _ => trivial).bind fun _ _ => run
      · exact run
  | exec r =>
      refine Act.Obeys.map (Docker.withDaemon_obeys asks hosts fun l leads => ?_)
      refine (Compose.findContainer_obeys asks (found l.client leads r.service
        (by simp [services]))).bind fun container allowed => ?_
      refine Act.obeys_look.bind fun terminal _ => ?_
      have about : good (execOptions container (!r.noTty && terminal.isTerminal) r).container := by
        rw [execOptions_container]
        exact allowed
      simp only []
      split
      · exact Exec.runInteractive_obeys asks about
      · exact Exec.runPlain_obeys asks about
  | portForward specs =>
      refine Act.Obeys.seq ?_ fun _ => Act.obeys_pure trivial
      refine Act.obeys_ofResult.bind fun parsed ok => ?_
      refine Docker.withDaemon_obeys asks hosts fun l leads => ?_
      have settingUp : ∀ spec ∈ parsed,
          (Forward.setUp c l.client spec).Obeys w p fun _ => True := by
        intro spec mem
        refine Forward.setUp_obeys asks (found l.client leads spec.service ?_)
        simp only [services, ok]
        exact List.mem_map_of_mem mem
      refine (Act.Obeys.mapM settingUp).bind fun routes _ => ?_
      · split
        · exact Act.obeys_fail
        · exact Forward.serve_obeys
  | secret service name =>
      refine Act.Obeys.seq ?_ fun _ => Act.obeys_pure trivial
      refine Act.Obeys.seq ?_ fun _ => Act.obeys_printLine
      refine Docker.withDaemon_obeys asks hosts fun l leads => ?_
      exact (Compose.findContainer_obeys asks (found l.client leads service
        (by simp [services]))).bind fun container allowed =>
          Compose.secret_obeys asks hosts allowed
  | env service name =>
      refine Act.Obeys.seq ?_ fun _ => Act.obeys_pure trivial
      refine Act.Obeys.seq ?_ fun _ => Act.obeys_printLine
      refine Docker.withDaemon_obeys asks hosts fun l leads => ?_
      exact (Compose.findContainer_obeys asks (found l.client leads service
        (by simp [services]))).bind fun container allowed =>
          Compose.containerVariable_obeys asks allowed
  | make args =>
      refine Act.Obeys.seq ?_ fun _ => Act.obeys_pure trivial
      exact (Session.runCommand_obeys hosts (programs _)).map
  | dbUri =>
      refine Act.Obeys.seq ?_ fun _ => Act.obeys_pure trivial
      refine Act.Obeys.seq ?_ fun uris => ?_
      · exact Docker.withDaemon_obeys asks hosts fun l leads =>
          Compose.databaseUris_obeys asks hosts (found l.client leads c.databaseService
            (by simp [services]))
      · refine Act.obeys_printLine.bind fun _ _ => ?_
        split
        · exact Act.obeys_look.bind fun _ _ => Act.obeys_printLine
        · exact Act.obeys_pure trivial
  | configShow =>
      exact showContext_obeys.bind fun _ _ => Act.obeys_pure trivial

end Program

end ComposeSite
