/-
# ComposeSite.Proofs.Program.Locality -- what a local context says of a host plays no part

The settings of a host are five of the settings of a context (`Field.ofHost`).  Leaving
them out of a local context (`withoutHost`) changes nothing that the program does with
it: every operation on contexts has a lemma to that effect, which is read off its
definition, and a command is put together from operations.

Two local contexts that agree on the other settings are the same context without its
host, so they behave the same (`local_ignores_host`).  That none of it dials a host or
reads a key follows from what commands may do at all (`Program.perform_obeys`).
-/
import ComposeSite.Proofs.Program.Conduct

set_option autoImplicit false

namespace ComposeSite

namespace Context

/-! ## Contexts without a host -/

/-- The settings that say how a host is reached. -/
def Field.ofHost : List Field := [.sshUser, .sshHostname, .sshPort, .sshKey, .useSudo]

/-- Two contexts that differ at most in what they say of a host. -/
def AgreeHere (c₁ c₂ : Context) : Prop := ∀ f, f ∉ Field.ofHost → c₁.get f = c₂.get f

/-- A context that says nothing of a host. -/
def withoutHost (c : Context) : Context :=
  { c with sshUser := "", sshHostname := "", sshPort := 22, sshKey := "", useSudo := false }

/-- Whatever is said of a host, the contexts agree. -/
theorem agreeHere_withHost (c : Context) (user host key : String) (port : UInt16) (elevated : Bool) :
    c.AgreeHere { c with
      sshUser := user, sshHostname := host, sshPort := port, sshKey := key, useSudo := elevated } := by
  intro f elsewhere
  cases f with
  | sshUser | sshHostname | sshPort | sshKey | useSudo => exact absurd (by decide) elsewhere
  | _ => rfl

theorem AgreeHere.withoutHost_eq {c₁ c₂ : Context} (agree : c₁.AgreeHere c₂) :
    c₁.withoutHost = c₂.withoutHost := by
  cases c₁
  cases c₂
  simp only [withoutHost, Context.mk.injEq, true_and]
  exact ⟨agree .name (by decide), agree .kind (by decide), agree .dockerSocket (by decide),
    agree .projectName (by decide), agree .projectDir (by decide), agree .profile (by decide),
    agree .envFiles (by decide), agree .composeFiles (by decide),
    agree .databaseService (by decide), agree .databaseUser (by decide),
    agree .databasePasswordSecret (by decide), agree .databaseName (by decide)⟩

theorem AgreeHere.kind_eq {c₁ c₂ : Context} (agree : c₁.AgreeHere c₂) : c₁.kind = c₂.kind :=
  agree .kind (by decide)

section Reading

variable {c : Context} (here : c.kind = .here)

include here

theorem validate_withoutHost (home : String) : c.withoutHost.validate home = c.validate home := by
  have here' : c.withoutHost.kind = .here := here
  rw [validate, validate, here, here']
  rfl

theorem sshUri?_eq_none : c.sshUri? = none := by
  simp [sshUri?, isRemote, here]

theorem summary_withoutHost (file : String) (styled : Bool) :
    c.withoutHost.summary file styled = c.summary file styled := by
  have here' : c.withoutHost.kind = .here := here
  simp only [summary, hostLines, isRemote, here, here']
  rfl

theorem readText_withoutHost (path : String) : c.withoutHost.readText path = c.readText path := by
  have here' : c.withoutHost.kind = .here := here
  rw [readText, readText, here, here']

end Reading

end Context

/-! ## Operations -/

section Operations

variable {c : Context} (here : c.kind = .here)

include here

theorem Session.runCommand_withoutHost (command : Shell.Command) :
    runCommand c.withoutHost command = runCommand c command := by
  have here' : c.withoutHost.kind = .here := here
  rw [runCommand, runCommand, here, here']
  rfl

theorem Docker.withDaemon_withoutHost {α : Type} (work : Link → Act α) :
    withDaemon c.withoutHost work = withDaemon c work := by
  have here' : c.withoutHost.kind = .here := here
  rw [withDaemon, withDaemon, here, here']
  rfl

theorem Compose.secret_withoutHost (client : Docker.Client) (container name : String) :
    secret client c.withoutHost container name = secret client c container name := by
  simp only [secret, Context.readText_withoutHost here]
  rfl

theorem Compose.databaseUris_withoutHost (client : Docker.Client) :
    databaseUris client c.withoutHost = databaseUris client c := by
  have here' : c.withoutHost.kind = .here := here
  simp only [databaseUris, secret_withoutHost here, Context.sshUri?_eq_none here,
    Context.sshUri?_eq_none here']
  rfl

theorem Program.compose_withoutHost (words : List String) :
    compose c.withoutHost words = compose c words := by
  simp only [compose, Session.runCommand_withoutHost here]
  rfl

theorem Program.showContext_withoutHost : showContext c.withoutHost = showContext c := by
  simp only [showContext, Context.summary_withoutHost here]

/-- A command does the same in a local context without its host. -/
theorem Program.perform_withoutHost (command : CommandLine.Command) :
    perform c.withoutHost command = perform c command := by
  cases command with
  | compose words => simp only [perform, compose_withoutHost here]
  | exec request =>
      simp only [perform, exec, Docker.withDaemon_withoutHost here]
      rfl
  | portForward specs =>
      simp only [perform, Forward.run, Docker.withDaemon_withoutHost here]
      rfl
  | secret service name =>
      simp only [perform, printValue, Docker.withDaemon_withoutHost here,
        Compose.secret_withoutHost here]
      rfl
  | env service name =>
      simp only [perform, printValue, Docker.withDaemon_withoutHost here]
      rfl
  | make words => simp only [perform, make, Session.runCommand_withoutHost here]
  | dbUri =>
      simp only [perform, printDatabaseUris, Docker.withDaemon_withoutHost here,
        Compose.databaseUris_withoutHost here]
  | configShow => simp only [perform, showContext_withoutHost here]

end Operations

/-! ## Looking up a context -/

section Lookup

variable {c₁ c₂ : Context} (here : c₁.kind = .here) (agree : c₁.AgreeHere c₂)

include here agree

theorem Context.AgreeHere.validate_eq (home : String) : c₁.validate home = c₂.validate home := by
  have here₂ : c₂.kind = .here := agree.kind_eq.symm.trans here
  rw [← validate_withoutHost here, agree.withoutHost_eq, validate_withoutHost here₂]

theorem Context.AgreeHere.perform_eq (command : CommandLine.Command) :
    Program.perform c₁ command = Program.perform c₂ command := by
  have here₂ : c₂.kind = .here := agree.kind_eq.symm.trans here
  rw [← Program.perform_withoutHost here, agree.withoutHost_eq,
    Program.perform_withoutHost here₂]

variable (current : String) (before after : List Context)

/-- A configuration gives the same context, or the one where the other gives the other. -/
theorem Config.context_agree (home : String) (request : Option String) :
    let config (c : Context) : Config := ⟨current, before ++ c :: after⟩
    (config c₁).context home request = (config c₂).context home request ∨
      (config c₁).context home request = .ok c₁ ∧
        (config c₂).context home request = .ok c₂ := by
  intro config
  have sameName : c₁.name = c₂.name := agree .name (by decide)
  have sameWanted : (config c₁).wanted request = (config c₂).wanted request := rfl
  simp only [Config.context, sameWanted]
  generalize (config c₂).wanted request = name
  by_cases empty : name.isEmpty = true
  · left
    simp only [empty]
    rfl
  simp only [config, Config.find?, List.find?_append, List.find?_cons, sameName]
  cases before.find? fun c => Config.sameName c.name name with
  | some c => exact .inl rfl
  | none =>
      cases Config.sameName c₂.name name with
      | false => exact .inl rfl
      | true =>
          have sameCheck := agree.validate_eq here home
          cases valid : c₂.validate home with
          | error f =>
              left
              rw [if_neg empty, if_neg empty]
              simp only [Option.none_or, sameCheck.trans valid, valid]
              rfl
          | ok u =>
              right
              rw [if_neg empty, if_neg empty]
              simp only [Option.none_or, sameCheck.trans valid, valid]
              exact ⟨rfl, rfl⟩

/-- Whatever is asked for, it does not matter which of the two a configuration holds. -/
theorem Program.carryOut_agree (request : CommandLine.Request) :
    let config (c : Context) : Config := ⟨current, before ++ c :: after⟩
    carryOut (config c₁) request = carryOut (config c₂) request := by
  intro config
  funext w t
  simp only [carryOut, Act.bind_apply, Act.home, Act.look, Act.ofResult]
  rcases Config.context_agree here agree current before after w.environment.home
    request.context with same | ⟨found₁, found₂⟩
  · rw [same]
  · rw [found₁, found₂]
    exact congrFun (congrFun (agree.perform_eq here request.command) w) t

end Lookup

/-! ## No host is dialed -/

/-- An act that dials no host and reads no key, from whatever trace it starts. -/
def Act.StaysHere {α : Type} (act : Act α) : Prop :=
  ∀ w t, (act w t).2.connections = t.connections ∧ (act w t).2.keysRead = t.keysRead

/-- Anything but what has to do with hosts. -/
def Permit.here : Permit := { event := fun _ => False, key := fun _ => False }

theorem Permit.here_allowsAbout : Permit.here.AllowsAbout fun _ => True := fun _ _ => trivial

theorem Act.staysHere_of_obeys {α : Type} {act : Act α} {gives : World → α → Prop}
    (obeys : ∀ w, act.Obeys w .here (gives w)) : act.StaysHere :=
  fun w t => ⟨(obeys w t).1.connections.eq_of_forbidden, (obeys w t).1.keysRead.eq_of_forbidden⟩

theorem Act.StaysHere.bind {α β : Type} {act : Act α} {next : α → Act β} (first : act.StaysHere)
    (second : ∀ a, (next a).StaysHere) : (act >>= next).StaysHere := by
  intro w t
  obtain ⟨noEvent, noKey⟩ := first w t
  rw [bind_apply]
  rcases ended : act w t with ⟨_ | a, t'⟩
  · rw [ended] at noEvent noKey
    exact ⟨noEvent, noKey⟩
  · rw [ended] at noEvent noKey
    obtain ⟨noEvent', noKey'⟩ := second a w t'
    exact ⟨noEvent'.trans noEvent, noKey'.trans noKey⟩

section StaysHere

variable {c : Context} (here : c.kind = .here)

include here

/-- A local context has no use for permits about hosts. -/
theorem Permit.here_allowsHosts : c.kind = .remote → Permit.here.AllowsHosts :=
  fun remote => absurd (here.symm.trans remote) (by decide)

/-- The daemon of a local context is worked with on this machine. -/
theorem Docker.withDaemon_staysHere {α : Type} {work : Link → Act α}
    (stays : ∀ client, (work ⟨client, none⟩).StaysHere) : (withDaemon c work).StaysHere := by
  rw [withDaemon, here]
  have resolving : (Act.examine fun w =>
      resolveLocal w.environment w.files c.dockerSocket).StaysHere :=
    fun _ _ => ⟨rfl, rfl⟩
  refine resolving.bind fun socket => ?_
  exact (Act.staysHere_of_obeys fun _ => connectSocket_obeys Permit.here_allowsAbout).bind stays

theorem Program.perform_staysHere (command : CommandLine.Command) :
    (perform c command).StaysHere :=
  Act.staysHere_of_obeys fun _ => perform_obeys (Permit.here_allowsHosts here) (fun _ => trivial)
    Permit.here_allowsAbout fun _ _ _ _ _ _ _ => trivial

end StaysHere

/-! ## The guarantee -/

/-- Two local contexts that agree on all but what they say of a host cannot be told apart: they
are found under the same names and are valid alike, and every operation and every command does
the same in both, down to the last octet of output, program and request; no host is dialed
and no key read. -/
theorem local_ignores_host {c₁ c₂ : Context} (here : c₁.kind = .here)
    (agree : c₁.AgreeHere c₂) :
    (∀ current before after home request,
      let config (c : Context) : Config := ⟨current, before ++ c :: after⟩
      (config c₁).context home request = (config c₂).context home request ∨
        (config c₁).context home request = .ok c₁ ∧
          (config c₂).context home request = .ok c₂) ∧
    (∀ home, c₁.validate home = c₂.validate home) ∧
    (∀ command, Session.runCommand c₁ command = Session.runCommand c₂ command ∧
      (Session.runCommand c₁ command).StaysHere) ∧
    (∀ path, c₁.readText path = c₂.readText path ∧ (c₁.readText path).StaysHere) ∧
    (∀ {α : Type} (work : Docker.Link → Act α),
      Docker.withDaemon c₁ work = Docker.withDaemon c₂ work ∧
        ((∀ client, (work ⟨client, none⟩).StaysHere) →
          (Docker.withDaemon c₁ work).StaysHere)) ∧
    (∀ client service withProfile,
      Compose.containerName client c₁ service withProfile =
          Compose.containerName client c₂ service withProfile ∧
        (Compose.containerName client c₁ service withProfile).StaysHere) ∧
    (∀ client container,
      Compose.serviceAddress client c₁ container = Compose.serviceAddress client c₂ container ∧
        (Compose.serviceAddress client c₁ container).StaysHere) ∧
    (∀ client container name,
      Compose.secret client c₁ container name = Compose.secret client c₂ container name ∧
        (Compose.secret client c₁ container name).StaysHere) ∧
    (∀ client, Compose.databaseUris client c₁ = Compose.databaseUris client c₂ ∧
      (Compose.databaseUris client c₁).StaysHere) ∧
    (∀ command, Program.perform c₁ command = Program.perform c₂ command ∧
      (Program.perform c₁ command).StaysHere) ∧
    ∀ current before after request,
      let config (c : Context) : Config := ⟨current, before ++ c :: after⟩
      Program.carryOut (config c₁) request = Program.carryOut (config c₂) request := by
  have here₂ : c₂.kind = .here := agree.kind_eq.symm.trans here
  have hosts := Permit.here_allowsHosts here
  have asks := Permit.here_allowsAbout
  have same := agree.withoutHost_eq
  refine ⟨Config.context_agree here agree, agree.validate_eq here, fun command => ⟨?_, ?_⟩,
    fun path => ⟨?_, ?_⟩, fun work => ⟨?_, Docker.withDaemon_staysHere here⟩,
    fun client service withProfile => ⟨?_, ?_⟩, fun client container => ⟨?_, ?_⟩,
    fun client container name => ⟨?_, ?_⟩, fun client => ⟨?_, ?_⟩,
    fun command => ⟨agree.perform_eq here command, Program.perform_staysHere here command⟩,
    Program.carryOut_agree here agree⟩
  · rw [← Session.runCommand_withoutHost here, same, Session.runCommand_withoutHost here₂]
  · exact Act.staysHere_of_obeys fun _ => Session.runCommand_obeys hosts trivial
  · rw [← Context.readText_withoutHost here, same, Context.readText_withoutHost here₂]
  · exact Act.staysHere_of_obeys fun _ => Context.readText_obeys hosts
  · rw [← Docker.withDaemon_withoutHost here, same, Docker.withDaemon_withoutHost here₂]
  · show Compose.containerName client c₁.withoutHost service withProfile =
      Compose.containerName client c₂.withoutHost service withProfile
    rw [same]
  · exact Act.staysHere_of_obeys fun _ => Compose.containerName_obeys asks
  · show Compose.serviceAddress client c₁.withoutHost container =
      Compose.serviceAddress client c₂.withoutHost container
    rw [same]
  · exact Act.staysHere_of_obeys fun _ => Compose.serviceAddress_obeys asks trivial
  · rw [← Compose.secret_withoutHost here, same, Compose.secret_withoutHost here₂]
  · exact Act.staysHere_of_obeys fun _ => Compose.secret_obeys asks hosts trivial
  · rw [← Compose.databaseUris_withoutHost here, same, Compose.databaseUris_withoutHost here₂]
  · exact Act.staysHere_of_obeys fun _ =>
      Compose.databaseUris_obeys asks hosts fun _ _ _ => trivial

/-- A context on this machine. -/
def workshop : Context where
  name := "workshop"
  kind := .here
  dockerSocket := "/var/run/docker.sock"
  projectName := "workshop"
  projectDir := "/srv/workshop"
  sshUser := ""
  sshHostname := ""
  sshPort := 22
  sshKey := ""
  useSudo := false
  profile := some "dev"
  envFiles := []
  composeFiles := []
  databaseService := "mariadb"
  databaseUser := "root"
  databasePasswordSecret := "DB_ROOT_PASSWORD"
  databaseName := "drupal_default"

/-- What is left over of a host in a local context makes no difference. -/
theorem workshop_ignores_host :
    let moved : Context := { workshop with
      sshUser := "deploy", sshHostname := "museum.example", sshPort := 2222, sshKey := "~/id",
      useSudo := true }
    Program.perform workshop .dbUri = Program.perform moved .dbUri ∧
      (Program.perform moved .dbUri).StaysHere := by
  intro moved
  have here : workshop.kind = .here := rfl
  obtain ⟨-, -, -, -, -, -, -, -, -, commands, -⟩ := local_ignores_host here
    (Context.agreeHere_withHost workshop "deploy" "museum.example" "~/id" 2222 true)
  obtain ⟨same, stays⟩ := commands .dbUri
  exact ⟨same, same ▸ stays⟩

end ComposeSite
