/-
# ComposeSite.Context.Basic -- a site and how it is reached

A context names a compose project on this machine or on a host behind SSH.  Its
settings are also available one by one (`Field`), each with its written name, its
shape and its default, so that every written form of a context reads and writes
the same settings.
-/
import ComposeSite.Environment
import ComposeSite.Ssh.Target
import ComposeSite.Text.Blank

set_option autoImplicit false

namespace ComposeSite

/-- Where the project of a context runs. -/
inductive HostKind where
  | here
  | remote
  deriving DecidableEq, Repr

namespace HostKind

def name : HostKind → String
  | here => "local"
  | remote => "remote"

def names : List String := ["local", "remote"]

def ofName? (s : String) : Option HostKind :=
  if s = "local" then some here else if s = "remote" then some remote else none

end HostKind

/-- A compose project and the way to it. -/
structure Context where
  name : String
  kind : HostKind
  dockerSocket : String
  projectName : String
  projectDir : String
  sshUser : String
  sshHostname : String
  sshPort : UInt16
  sshKey : String
  useSudo : Bool
  profile : Option String
  envFiles : List String
  composeFiles : List String
  databaseService : String
  databaseUser : String
  databasePasswordSecret : String
  databaseName : String
  deriving DecidableEq, Repr

namespace Context

/-! ## Settings one by one -/

inductive Shape where
  | text
  | flag
  | port
  | optionalText
  | texts
  | hostKind
  deriving DecidableEq, Repr

@[reducible]
def Shape.Carrier : Shape → Type
  | text => String
  | flag => Bool
  | port => UInt16
  | optionalText => Option String
  | texts => List String
  | hostKind => HostKind

/-- The settings, in the order in which they are written. -/
inductive Field where
  | name
  | kind
  | dockerSocket
  | projectName
  | projectDir
  | sshUser
  | sshHostname
  | sshPort
  | sshKey
  | useSudo
  | profile
  | envFiles
  | composeFiles
  | databaseService
  | databaseUser
  | databasePasswordSecret
  | databaseName
  deriving DecidableEq, Repr

namespace Field

def all : List Field :=
  [name, kind, dockerSocket, projectName, projectDir, sshUser, sshHostname, sshPort, sshKey,
   useSudo, profile, envFiles, composeFiles, databaseService, databaseUser,
   databasePasswordSecret, databaseName]

def key : Field → String
  | name => "name"
  | kind => "type"
  | dockerSocket => "docker-socket"
  | projectName => "project-name"
  | projectDir => "project-dir"
  | sshUser => "ssh-user"
  | sshHostname => "ssh-hostname"
  | sshPort => "ssh-port"
  | sshKey => "ssh-key"
  | useSudo => "sudo"
  | profile => "profile"
  | envFiles => "env-file"
  | composeFiles => "compose-file"
  | databaseService => "database-service"
  | databaseUser => "database-user"
  | databasePasswordSecret => "database-password-secret"
  | databaseName => "database-name"

def ofKey? (s : String) : Option Field := all.find? fun f => f.key = s

@[reducible]
def shape : Field → Shape
  | kind => .hostKind
  | sshPort => .port
  | useSudo => .flag
  | profile => .optionalText
  | envFiles | composeFiles => .texts
  | _ => .text

/-- The value of a setting that is not given; only the name must be. -/
def default? : (f : Field) → Option f.shape.Carrier
  | name => none
  | kind => some .here
  | dockerSocket => some "/var/run/docker.sock"
  | projectName => some "docker-compose"
  | projectDir => some ""
  | sshUser => some ""
  | sshHostname => some ""
  | sshPort => some (22 : UInt16)
  | sshKey => some ""
  | useSudo => some false
  | profile => some none
  | envFiles => some []
  | composeFiles => some []
  | databaseService => some "mariadb"
  | databaseUser => some "root"
  | databasePasswordSecret => some "DB_ROOT_PASSWORD"
  | databaseName => some "drupal_default"

end Field

def get (c : Context) : (f : Field) → f.shape.Carrier
  | .name => c.name
  | .kind => c.kind
  | .dockerSocket => c.dockerSocket
  | .projectName => c.projectName
  | .projectDir => c.projectDir
  | .sshUser => c.sshUser
  | .sshHostname => c.sshHostname
  | .sshPort => c.sshPort
  | .sshKey => c.sshKey
  | .useSudo => c.useSudo
  | .profile => c.profile
  | .envFiles => c.envFiles
  | .composeFiles => c.composeFiles
  | .databaseService => c.databaseService
  | .databaseUser => c.databaseUser
  | .databasePasswordSecret => c.databasePasswordSecret
  | .databaseName => c.databaseName

/-- Settings of which some are given. -/
abbrev Draft := (f : Field) → Option f.shape.Carrier

namespace Draft

def empty : Draft := fun _ => none

def put (d : Draft) (f : Field) (v : f.shape.Carrier) : Draft := fun g =>
  if h : f = g then some (h ▸ v) else d g

def has (d : Draft) (f : Field) : Bool := (d f).isSome

/-- The given or default value of a setting. -/
def value? (d : Draft) (f : Field) : Option f.shape.Carrier := (d f).or f.default?

/-- The context with the given settings and defaults for the others; the setting that is
missing, if one without default is. -/
def build (d : Draft) : Except Field Context := do
  let need (f : Field) : Except Field f.shape.Carrier :=
    match d.value? f with
    | some v => .ok v
    | none => .error f
  return {
    name := ← need .name
    kind := ← need .kind
    dockerSocket := ← need .dockerSocket
    projectName := ← need .projectName
    projectDir := ← need .projectDir
    sshUser := ← need .sshUser
    sshHostname := ← need .sshHostname
    sshPort := ← need .sshPort
    sshKey := ← need .sshKey
    useSudo := ← need .useSudo
    profile := ← need .profile
    envFiles := ← need .envFiles
    composeFiles := ← need .composeFiles
    databaseService := ← need .databaseService
    databaseUser := ← need .databaseUser
    databasePasswordSecret := ← need .databasePasswordSecret
    databaseName := ← need .databaseName }

end Draft

/-! ## What a context means -/

def isRemote (c : Context) : Bool := c.kind = .remote

/-- The SSH settings a remote context cannot do without and does not have. -/
def missingSettings (c : Context) : List Field :=
  [(Field.sshUser, c.sshUser.isEmpty), (.sshHostname, c.sshHostname.isEmpty),
   (.sshPort, c.sshPort == 0), (.sshKey, c.sshKey.isEmpty)].filterMap
    fun (f, missing) => if missing then some f else none

/-- Where the host of a context is reached, with the settings that are missing as the
failure. -/
def target (home : String) (c : Context) : Except (List Field) Ssh.Target :=
  match c.missingSettings with
  | [] => .ok ⟨c.sshUser, c.sshHostname, c.sshPort, Path.expandTilde home c.sshKey⟩
  | missing => .error missing

def directory? (home : String) (c : Context) : Option String :=
  if c.projectDir.isEmpty then none else some (Path.expandTilde home c.projectDir)

/-- What a database client needs to tunnel to a remote context. -/
def sshUri? (c : Context) : Option String :=
  if c.isRemote then
    let port := if c.sshPort == 0 then 22 else c.sshPort
    let base := s!"sshHost={c.sshHostname}&sshUser={c.sshUser}&sshPort={port}"
    some (if c.sshKey.isEmpty then base else s!"{base}&sshKeyFile={c.sshKey}")
  else none

/-- The network that compose puts the project's containers on. -/
def defaultNetwork (c : Context) : String := s!"{c.projectName}_default"

/-- The profile, unless it is empty. -/
def activeProfile? (c : Context) : Option String :=
  c.profile.filter (· ≠ "")

end Context

end ComposeSite
