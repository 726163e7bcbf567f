/-
# ComposeSite.Proofs.Program.ExitStatus -- the status that a command in a container leaves

The execs whose exit codes daemons have been asked for are a view of the trace
(`Trace.inspections`).  Running a command in a container either fails without such a question, or
asks for one exit code and ends with what is reported (`CodeAsked`); so it is for following an
exec (`Exec.attend_codeAsked`), and for all that is done around it (`Program.exec_codeAsked`).
An exec that never ends is no failure, and leaves no status (`Program.run_endless`).

What is reported becomes the status of this process in two steps.  A code that does not fit into
32 bits counts as one, so that none of these passes for success; but the other codes are cut
down to eight bits as they are, and each multiple of 256 among them leaves the status of success
(`Program.exec_status`).
-/
import ComposeSite.Program.Run
import ComposeSite.Proofs.Exec.Run
import ComposeSite.Proofs.Program.PassThrough

set_option autoImplicit false

namespace ComposeSite

open Docker (Client Daemon)

theorem Failure.isEndless_iff {f : Failure} :
    f.isEndless = true ↔ ∃ exec, f = .attach exec .endless := by
  constructor
  · intro endless
    rw [isEndless.eq_def] at endless
    split at endless
    · exact ⟨_, rfl⟩
    · cases endless
  · rintro ⟨exec, rfl⟩
    rfl

/-- Either an exit code is reported and told, or what is told instead is a failure, which is none
of an endless exec. -/
theorem Exec.codeOf_cases (exec : String) (answer : Except DockerFailure (Option Int)) :
    (∃ code, answer = .ok (some code) ∧ codeOf exec answer = .ok code) ∨
      (∀ code, answer ≠ .ok (some code)) ∧
        ∃ f, f.isEndless = false ∧ codeOf exec answer = .error f := by
  rcases answer with why | _ | code
  · exact .inr ⟨by simp, _, rfl, rfl⟩
  · exact .inr ⟨by simp, _, rfl, rfl⟩
  · exact .inl ⟨code, rfl, rfl⟩

/-! ## Questions for exit codes -/

/-- The exec whose exit code is asked for. -/
def Docker.Request.inspected? : Docker.Request → Option String
  | .inspectExec exec => some exec
  | _ => none

/-- What a daemon reports as the exit code of an exec. -/
def Docker.Daemon.reported (d : Daemon) (exec : String) : Except DockerFailure (Option Int) :=
  (d.answer (.inspectExec exec)).read Docker.Document.exitCode

/-- The execs whose exit codes daemons have been asked for. -/
def Trace.inspections (t : Trace) : List String := t.requests.filterMap Docker.Request.inspected?

theorem Trace.inspections_append {t t' : Trace} {requests : List Docker.Request}
    (added : t'.requests = t.requests ++ requests) :
    t'.inspections = t.inspections ++ requests.filterMap Docker.Request.inspected? := by
  rw [inspections, added, List.filterMap_append, inspections]

theorem Trace.inspections_congr {t t' : Trace} (same : t'.requests = t.requests) :
    t'.inspections = t.inspections := by
  rw [inspections, same, inspections]

/-- Something that ends with an exit code, or fails, has asked a daemon for the exit code of one
exec and ends with what is reported; or it has asked for none, and fails. -/
inductive CodeAsked (d : Daemon) (before after : Trace) (r : Except Failure Int) : Prop where
  | never {f : Failure} (silent : after.inspections = before.inspections) (fails : r = .error f)
  | once {exec : String} (asked : after.inspections = before.inspections ++ [exec])
      (told : r = Exec.codeOf exec (d.reported exec))

/-- Other requests may come before and behind. -/
theorem CodeAsked.congr {d : Daemon} {before before' after after' : Trace}
    {r : Except Failure Int} (asked : CodeAsked d before after r)
    (start : before.inspections = before'.inspections)
    (stop : after'.inspections = after.inspections) : CodeAsked d before' after' r := by
  cases asked with
  | never silent fails => exact .never (by rw [stop, silent, start]) fails
  | once asked told => exact .once (by rw [stop, asked, start]) told

/-! ## Execs -/

namespace Exec

theorem inspections_asked (t : Trace) (requests : List Docker.Request) :
    (t.asked requests).inspections =
      t.inspections ++ requests.filterMap Docker.Request.inspected? :=
  Trace.inspections_append rfl

/-- An exec is followed before its exit code is asked for; what fails before that is told of. -/
theorem attend_codeAsked (client : Client) (o : Options) (c : Course) (w : World) (t : Trace) :
    CodeAsked client.daemon t (attend client o c w t).2 (attend client o c w t).1 := by
  cases creates : created client o with
  | error why =>
      rw [attend_uncreated creates]
      exact .never ((inspections_asked t _).trans (List.append_nil _)) rfl
  | ok exec =>
  cases sendable : Docker.Attach.sentTarget? (starting client o exec).target with
  | none =>
      rw [attend_unsent creates sendable]
      exact .never ((inspections_asked t _).trans (List.append_nil _)) rfl
  | some target =>
  have sendable := Option.isSome_of_eq_some sendable
  cases starts : started client o exec with
  | error f =>
      rw [attend_unstarted creates sendable starts]
      exact .never ((inspections_asked t _).trans (List.append_nil _)) rfl
  | ok s =>
  obtain ⟨fed, -, never, ends⟩ := attend_started (c := c) (w := w) (t := t) creates sendable starts
  -- creating and starting an exec are no such questions, and following it asks for nothing
  have begun : (t.asked [creation o, starting client o exec]).inspections = t.inspections :=
    (inspections_asked t _).trans (List.append_nil _)
  by_cases endless : Endless client.daemon o c s
  · rw [never endless]
    exact .never begun rfl
  · obtain ⟨broken, copied⟩ := ends endless
    cases result : (outcome o.tty t.stdout t.stderr s.output
        (breakOff client.daemon s)).result with
    | error f =>
        rw [broken f result]
        exact .never begun rfl
    | ok done =>
        rw [copied result]
        exact .once ((inspections_asked _ _).trans (congrArg (· ++ [exec]) begun)) rfl

end Exec

/-- In raw mode the same is asked for, unless raw mode cannot be entered. -/
theorem CodeAsked.inRawMode {d : Daemon} {act : Act Int} {w : World} {t : Trace}
    (asked : CodeAsked d t (act w t).2 (act w t).1) :
    CodeAsked d t (act.inRawMode w t).2 (act.inRawMode w t).1 := by
  simp only [Act.inRawMode, Terminal.withRawMode]
  cases w.terminal.isTerminal with
  | false => exact asked.congr rfl rfl
  | true =>
      cases w.terminal.failsEnabling with
      | true => exact .never rfl rfl
      | false => exact asked.congr rfl rfl

/-! ## Commands -/

namespace Program

open CommandLine (ExecRequest Request)

variable {r : ExecRequest} {w : World}

theorem runIn_codeAsked (client : Client) (r : ExecRequest) (container : String) (w : World)
    (t : Trace) : CodeAsked client.daemon t (runIn client r container w t).2
      (runIn client r container w t).1 := by
  have step : runIn client r container w t =
      (if interacts w r then
        Exec.runInteractive client (execOptions container (interacts w r) r)
      else Exec.runPlain client (execOptions container (interacts w r) r)) w t := rfl
  rw [step]
  cases interacts w r with
  | false => exact Exec.attend_codeAsked client _ _ w t
  | true => exact CodeAsked.inRawMode (Exec.attend_codeAsked client _ _ w t)

/-- Looking up a container asks for no exit code. -/
theorem findContainer_inspections (client : Client) (c : Context) (service : String) (w : World)
    (t : Trace) : (Compose.findContainer client c service w t).2.inspections = t.inspections := by
  let listing : Docker.Request :=
    .list (Compose.serviceLabels c (Compose.serviceName c service true))
  have lists : (Compose.containerName client c service true w t).2.requests =
      t.requests ++ [listing] :=
    (Act.bind_requests fun _ => Act.obeys_pure trivial).trans (Docker.askFor_requests ..)
  have looks : (Compose.findContainer client c service w t).2.requests =
      t.requests ++ [listing] := by
    refine (Act.bind_requests fun name? => ?_).trans lists
    split
    · exact Act.obeys_pure trivial
    · exact Act.obeys_fail
  exact (Trace.inspections_append looks).trans (List.append_nil _)

/-- A command is run in the container of a service as it is run in a container. -/
theorem findContainer_runIn_codeAsked (client : Client) (c : Context) (r : ExecRequest) (w : World)
    (t : Trace) :
    let ended := (Compose.findContainer client c r.service >>= runIn client r) w t
    CodeAsked client.daemon t ended.2 ended.1 := by
  have silent := findContainer_inspections client c r.service w t
  intro ended
  rcases found : Compose.findContainer client c r.service w t with ⟨f | container, after⟩
  · have failed : ended = (.error f, after) := Act.bind_error found
    rw [found] at silent
    rw [failed]
    exact .never silent rfl
  · have runs : ended = runIn client r container w after := Act.bind_ok found
    rw [found] at silent
    rw [runs]
    exact (runIn_codeAsked client r container w after).congr silent rfl

/-- Running a command in a container of a context asks the daemon that the context leads to. -/
theorem exec_codeAsked (c : Context) (r : ExecRequest) (w : World) (t : Trace) :
    ((exec c r w t).2.inspections = t.inspections ∧ ∃ f, (exec c r w t).1 = .error f) ∨
      ∃ d, LeadsTo w c d ∧ CodeAsked d t (exec c r w t).2 (exec c r w t).1 := by
  rw [exec_eq]
  rcases Docker.withDaemon_cases w c t with ⟨f, after, -, greets, fails⟩ | ⟨l, start, reaches⟩
  · refine .inl ⟨?_, f, by rw [fails]⟩
    rw [fails]
    rcases greets with silent | asked
    · exact Trace.inspections_congr silent
    · exact (Trace.inspections_append asked).trans (List.append_nil _)
  · -- the version is all that has been asked for when the work starts
    have begun : start.inspections = t.inspections :=
      (Trace.inspections_append reaches.requests).trans (List.append_nil _)
    refine .inr ⟨l.client.daemon, reaches.leads, ?_⟩
    rw [reaches.result]
    exact (findContainer_runIn_codeAsked l.client c r w start).congr begun
      (Trace.inspections_congr (reaches.asked _))

/-! ## The process -/

/-- The daemon of the context that a request is for, in the user's configuration. -/
def Consults (w : World) (q : Request) (d : Daemon) : Prop :=
  ∃ config c, (Config.load w {}).1 = .ok config ∧
    config.context w.environment.home q.context = .ok c ∧ LeadsTo w c d

theorem Consults.unique {q : Request} {d d' : Daemon} (consults : Consults w q d)
    (consults' : Consults w q d') : d = d' := by
  obtain ⟨config, c, loads, finds, leads⟩ := consults
  obtain ⟨config', c', loads', finds', leads'⟩ := consults'
  cases loads.symm.trans loads'
  cases finds.symm.trans finds'
  exact leads.unique leads'

/-- What carrying out a request to run a command in a container comes to: a failure before any
exit code is asked for, or what is made of the exit code that is reported. -/
theorem execute_codeAsked {q : Request} (isExec : q.command = .exec r) (w : World) :
    ((execute q w {}).2.inspections = [] ∧ ∃ f, (execute q w {}).1 = .error f) ∨
      ∃ d exec, Consults w q d ∧ (execute q w {}).2.inspections = [exec] ∧
        (execute q w {}).1 = (Exec.codeOf exec (d.reported exec)).map clampExit := by
  cases loads : (Config.load w {}).1 with
  | error f =>
      have failed : execute q w {} = (.error f, {}) := Act.bind_error (Prod.ext loads rfl)
      rw [failed]
      exact .inl ⟨rfl, f, rfl⟩
  | ok config =>
  have loaded : execute q w {} = carryOut config q w {} := Act.bind_ok (Prod.ext loads rfl)
  have atHome : Act.home w {} = (.ok w.environment.home, {}) := rfl
  cases finds : config.context w.environment.home q.context with
  | error f =>
      have lost : (Act.ofResult (config.context w.environment.home q.context)) w {} =
          (.error f, {}) := Prod.ext finds rfl
      rw [loaded, carryOut, Act.bind_ok atHome, Act.bind_error lost]
      exact .inl ⟨rfl, f, rfl⟩
  | ok c =>
  have found : (Act.ofResult (config.context w.environment.home q.context)) w {} = (.ok c, {}) :=
    Prod.ext finds rfl
  have carried : execute q w {} = (clampExit <$> exec c r) w {} := by
    rw [loaded, carryOut, Act.bind_ok atHome, Act.bind_ok found, isExec]
    rfl
  have result : (execute q w {}).1 = (exec c r w {}).1.map clampExit := by
    rw [carried, map_eq_pure_bind, Act.bind_apply]
    rcases exec c r w {} with ⟨f | code, after⟩ <;> rfl
  have trace : (execute q w {}).2.inspections = (exec c r w {}).2.inspections := by
    rw [carried, map_eq_pure_bind, bind_pure_trace]
  rw [result, trace]
  rcases exec_codeAsked c r w {} with ⟨silent, f, fails⟩ | ⟨d, leads, asked⟩
  · exact .inl ⟨silent, f, by rw [fails]; rfl⟩
  · cases asked with
    | never silent fails => exact .inl ⟨silent, _, by rw [fails]; rfl⟩
    | once asked told => exact .inr ⟨d, _, ⟨config, c, loads, finds, leads⟩, asked, by rw [told]⟩

/-- The exit codes that fit into 32 bits. -/
def Fits (code : Int) : Prop := -0x80000000 ≤ code ∧ code < 0x80000000

/-- The status of success is that of the multiples of 256 that fit. -/
theorem processStatus_clampExit (code : Int) :
    (Fits code → (processStatus (clampExit code) : Int) = code % 256) ∧
    (¬Fits code → processStatus (clampExit code) = 1) ∧
    (processStatus (clampExit code) = 0 ↔ Fits code ∧ 256 ∣ code) := by
  have bits : ((code % 256).toNat : Int) = code % 256 :=
    Int.toNat_of_nonneg (Int.emod_nonneg code (by decide))
  by_cases fits : Fits code
  · have clamped : clampExit code = code := if_pos fits
    have status : processStatus code = (code % 256).toNat := rfl
    rw [clamped, status]
    refine ⟨fun _ => bits, fun apart => absurd fits apart, ?_⟩
    rw [and_iff_right fits, Int.dvd_iff_emod_eq_zero, ← bits]
    exact Int.natCast_eq_zero.symm
  · have clamped : clampExit code = 1 := if_neg fits
    have status : processStatus 1 = 1 := rfl
    rw [clamped, status]
    exact ⟨fun inside => absurd inside fits, fun _ => rfl,
      iff_of_false (by decide) fun success => fits success.1⟩

section Status

variable {args : List String} {q : Request}
  (reads : CommandLine.read w.environment args = .ok q)

include reads

/-- A request that fails leaves the status one, unless it is for an exec that never ends. -/
theorem run_failed {f : Failure} (fails : (execute q w {}).1 = .error f) :
    (run args w).ends = !f.isEndless ∧ (f.isEndless = false → (run args w).status = 1) := by
  rcases ended : execute q w {} with ⟨f' | code, t⟩
  · rw [ended] at fails
    cases fails
    simp only [run, reads, ended, failed]
    cases f.isEndless with
    | true => exact ⟨rfl, fun ends => by cases ends⟩
    | false => exact ⟨rfl, fun _ => rfl⟩
  · rw [ended] at fails
    cases fails

/-- A request that gives an exit code leaves what is made of it. -/
theorem run_ended {code : Int} (ends : (execute q w {}).1 = .ok code) :
    (run args w).ends = true ∧ (run args w).status = processStatus code := by
  rcases ended : execute q w {} with ⟨f | given, t⟩
  · rw [ended] at ends
    cases ends
  · rw [ended] at ends
    cases ends
    simp only [run, reads, ended]
    exact ⟨trivial, trivial⟩

/-- A process does not end exactly if its exec never does. -/
theorem run_endless :
    (run args w).ends = false ↔ ∃ exec, (execute q w {}).1 = .error (.attach exec .endless) := by
  cases result : (execute q w {}).1 with
  | error f =>
      rw [(run_failed reads result).1, Bool.not_eq_false', Failure.isEndless_iff]
      simp only [Except.error.injEq]
  | ok code =>
      rw [(run_ended reads result).1]
      simp

/-- **The status of a command in a container is that of its exit code, up to multiples of 256.**
The process does not end exactly if the exec never does. If it ends, it fails with the status one
if no exit code is asked for. At most one is asked for, of the daemon that the request leads to,
and then the process ends; if the daemon does not report any, the status is one too. A reported
code that fits into 32 bits leaves its lowest eight bits as the status, and any other code leaves
one. So the status is that of success exactly for the multiples of 256 that fit. -/
theorem exec_status (isExec : q.command = .exec r) :
    let inspections := (execute q w {}).2.inspections
    let ending := run args w
    (ending.ends = false ↔ ∃ exec, (execute q w {}).1 = .error (.attach exec .endless)) ∧
    (inspections = [] → ending.ends = true → ending.status = 1) ∧
    ∀ exec ∈ inspections, inspections = [exec] ∧ ending.ends = true ∧ ∃ d, Consults w q d ∧
      ((∀ code, d.reported exec ≠ .ok (some code)) → ending.status = 1) ∧
      ∀ code, d.reported exec = .ok (some code) →
        (Fits code → (ending.status : Int) = code % 256) ∧
        (¬Fits code → ending.status = 1) ∧
        (ending.status = 0 ↔ Fits code ∧ 256 ∣ code) := by
  intro inspections ending
  refine ⟨run_endless reads, ?_⟩
  rcases execute_codeAsked isExec w with ⟨silent, f, fails⟩ | ⟨d, exec, consults, asked, told⟩
  · obtain ⟨ends, status⟩ := run_failed reads fails
    refine ⟨fun _ finite => status ?_, fun exec mem => ?_⟩
    · rw [ends] at finite
      exact Bool.not_eq_true' _ ▸ finite
    · have none : inspections = [] := silent
      rw [none] at mem
      cases mem
  · have one : inspections = [exec] := asked
    rw [one]
    refine ⟨fun none => (by cases none), fun exec' mem => ?_⟩
    obtain rfl := List.mem_singleton.mp mem
    obtain ⟨code, answered, told'⟩ | ⟨unreported, f, finite, told'⟩ :=
      Exec.codeOf_cases exec' (d.reported exec')
    · rw [told'] at told
      obtain ⟨ends, status⟩ := run_ended reads told
      refine ⟨rfl, ends, d, consults, fun unreported => absurd answered (unreported code),
        fun code' reported => ?_⟩
      obtain rfl : code = code' := Option.some.inj (Except.ok.inj (answered.symm.trans reported))
      rw [status]
      exact processStatus_clampExit code
    · rw [told'] at told
      obtain ⟨ends, status⟩ := run_failed reads told
      rw [finite] at ends
      exact ⟨rfl, ends, d, consults, fun _ => status finite,
        fun code reported => absurd reported (unreported code)⟩

end Status

/-! ## An exit code that is lost -/

/-- A user's configuration of the gallery. -/
def galleryConfig : String :=
  "current-context: gallery\ncontexts:\n- name: gallery\n  project-name: gallery\n" ++
    "  project-dir: /srv/gallery\n  database-service: db\n"

/-- A daemon whose execs put nothing out and end with an exit code of nine bits. -/
def overflowing : Daemon := { searchDaemon with exec := ⟨"e1", [], some 256, false, false⟩ }

/-- A world in which this daemon listens, and the gallery is configured. -/
def overflowingWorld : World where
  environment := ⟨[]⟩
  files := {
    entries := [(["var", "run", "docker.sock"], .socket),
      (["root", ".sitectl", "config.yaml"], .file (Text.Utf8.encode galleryConfig) false)]
    workDirectory := [] }
  daemons := [(["var", "run", "docker.sock"], overflowing)]

/-- A command that fails, to be run for a service. -/
def falseLine : List String := ["exec", "solr", "false"]

/-- The request that this is read as. -/
def falseRequest : Request := ⟨none, "info", .exec ⟨false, none, none, [], "solr", ["false"]⟩⟩

theorem falseLine_read : CommandLine.read overflowingWorld.environment falseLine =
    .ok falseRequest := by
  decide +kernel

theorem overflowing_reported : overflowing.reported "e1" = .ok (some 256) := by
  decide +kernel

theorem overflowing_consulted : Consults overflowingWorld falseRequest overflowing := by
  have loads : (Config.load overflowingWorld {}).1 = .ok ⟨"gallery", [gallery]⟩ := by
    decide +kernel
  have finds : Config.context ⟨"gallery", [gallery]⟩ overflowingWorld.environment.home none =
      .ok gallery := by decide +kernel
  have alive : Docker.resolveLocal overflowingWorld.environment overflowingWorld.files
      gallery.dockerSocket = .ok "/var/run/docker.sock" := by decide +kernel
  have resolves : overflowingWorld.files.resolve "/var/run/docker.sock" =
      .ok (["var", "run", "docker.sock"], .socket) := by decide +kernel
  refine ⟨_, gallery, loads, finds, .here rfl alive ?_⟩
  rw [World.daemonAt?, resolves]
  rfl

theorem falseRequest_executed : (execute falseRequest overflowingWorld {}).1 = .ok 256 ∧
    (execute falseRequest overflowingWorld {}).2.inspections = ["e1"] := by
  decide +kernel

/-- The exit code is asked for and reported, and the status is that of success. -/
theorem overflowing_exec_status :
    CommandLine.read overflowingWorld.environment falseLine = .ok falseRequest ∧
    "e1" ∈ (execute falseRequest overflowingWorld {}).2.inspections ∧
    overflowing.reported "e1" = .ok (some 256) ∧
    (run falseLine overflowingWorld).status = 0 := by
  have asked : "e1" ∈ (execute falseRequest overflowingWorld {}).2.inspections := by
    rw [falseRequest_executed.2]
    exact List.mem_singleton_self _
  obtain ⟨-, -, once⟩ := exec_status falseLine_read rfl
  obtain ⟨-, -, d, consults, -, status⟩ := once "e1" asked
  obtain rfl := consults.unique overflowing_consulted
  obtain ⟨-, -, success⟩ := status 256 overflowing_reported
  exact ⟨falseLine_read, asked, overflowing_reported,
    success.mpr ⟨⟨by decide, by decide⟩, by decide⟩⟩

/-- A command in a container may fail, and the status be that of success. -/
theorem failure_passed_for_success :
    ¬∀ (args : List String) (w : World) (q : Request) (r : ExecRequest) (d : Daemon)
        (exec : String) (code : Int),
      CommandLine.read w.environment args = .ok q → q.command = .exec r → Consults w q d →
      exec ∈ (execute q w {}).2.inspections → d.reported exec = .ok (some code) →
      ((run args w).status = 0 ↔ code = 0) := by
  intro agrees
  obtain ⟨ended, asked⟩ := falseRequest_executed
  have success : (run falseLine overflowingWorld).status = 0 := (run_ended falseLine_read ended).2
  have none := (agrees falseLine overflowingWorld falseRequest _ overflowing "e1" 256 falseLine_read
    rfl overflowing_consulted (by rw [asked]; exact List.mem_singleton_self _)
    overflowing_reported).mp success
  exact absurd none (by decide)

end Program

end ComposeSite
