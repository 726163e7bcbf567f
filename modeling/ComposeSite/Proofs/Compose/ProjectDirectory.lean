/-
# ComposeSite.Proofs.Compose.ProjectDirectory -- the project's directory on another host

A tilde at the start of a path stands for a home directory (`Path.Tilded`), and a path without
one stands for itself (`Path.expandTilde_eq_self`).

On another host the directory of a project is made use of in two ways.  The line of a command
changes into it as the context spells it (`Shell.remoteLine_read_back`).  A secret whose mount
states no source is looked for in it after a tilde has become the home directory of the user of
this machine, and no other file is opened for it (`sourceless_secret_opens`).  Hence commands
and secrets have the same directory if there is no tilde, and different ones if there is.
-/
import ComposeSite.Proofs.Compose.Secret
import ComposeSite.Proofs.Program.PassThrough

set_option autoImplicit false

namespace ComposeSite

/-! ## Paths -/

/-- There is always a home directory. -/
theorem Environment.home_ne_empty (e : Environment) : e.home ≠ "" := by
  rw [home]
  split
  · split
    · decide
    · rename_i home nonempty
      exact fun empty => nonempty (String.isEmpty_iff.mpr empty)
  · decide

namespace Path

variable {home path : String}

/-- A path starts with a tilde that stands for the home directory. -/
def Tilded (path : String) : Prop := path = "~" ∨ ∃ rest, path = "~/" ++ rest

theorem toList_below (rest : String) : ("~/" ++ rest).toList = '~' :: '/' :: rest.toList :=
  String.toList_append

theorem expandTilde_below (home rest : String) : expandTilde home ("~/" ++ rest) =
    home ++ "/" ++ rest := by
  rw [expandTilde, toList_below, String.append_assoc]
  show home ++ String.ofList ('/' :: rest.toList) = _
  rw [← String.toList_inj]
  simp

theorem expandTilde_plain (plain : ¬Tilded path) : expandTilde home path = path := by
  rw [expandTilde]
  split
  · rename_i alone
    exact absurd (.inl (String.toList_inj.mp alone)) plain
  · rename_i rest before
    refine absurd (.inr ⟨String.ofList rest, String.toList_inj.mp ?_⟩) plain
    rw [toList_below, String.toList_ofList, before]
  · rfl

/-- Only a path without a tilde stands for itself, unless the home directory has the name of
the tilde. -/
theorem expandTilde_eq_self : expandTilde home path = path ↔ ¬Tilded path ∨ home = "~" := by
  by_cases tilded : Tilded path
  · rw [or_iff_right (not_not_intro tilded)]
    rcases tilded with rfl | ⟨rest, rfl⟩
    · exact Iff.rfl
    · have same : "~/" ++ rest = "~" ++ "/" ++ rest := rfl
      rw [expandTilde_below, same, String.append_left_inj, String.append_left_inj]
  · exact iff_of_true (expandTilde_plain tilded) (.inl tilded)

theorem expandTilde_ne_empty (someHome : home ≠ "") (something : path ≠ "") :
    expandTilde home path ≠ "" := by
  by_cases tilded : Tilded path
  · rcases tilded with rfl | ⟨rest, rfl⟩
    · exact someHome
    · rw [expandTilde_below]
      intro empty
      simp at empty
  · rwa [expandTilde_plain tilded]

/-- A path with one separator after it that it did not have. -/
def slashed (path : String) : String :=
  if path.toList.getLast? = some '/' then path else path ++ "/"

/-- A part that does not start at the root is put after a separator. -/
theorem join_relative {part : String} (something : path ≠ "")
    (relative : isAbsoluteChars part.toList = false) : join path part = slashed path ++ part := by
  have nonempty : path.toList.isEmpty = false := by
    rw [List.isEmpty_eq_false_iff]
    exact fun empty => something (String.toList_eq_nil_iff.mp empty)
  rw [join, joinChars, relative, nonempty, slashed, ← String.toList_inj, String.toList_ofList]
  by_cases ends : path.toList.getLast? = some '/'
  · simp [ends]
  · simp [ends]

theorem relative_of_not_mem {part : String} (plain : '/' ∉ part.toList) :
    isAbsoluteChars part.toList = false := by
  cases spelled : part.toList with
  | nil => rfl
  | cons c cs =>
      have other : c ≠ '/' := by
        rintro rfl
        exact plain (spelled ▸ List.mem_cons_self)
      simp [isAbsoluteChars, other]

/-- A name among the secrets of a directory. -/
theorem join_secrets {name : String} (something : path ≠ "") (plain : '/' ∉ name.toList) :
    join (join path "secrets") name = slashed path ++ "secrets/" ++ name := by
  have relative : isAbsoluteChars "secrets".toList = false := rfl
  have last : (slashed path ++ "secrets").toList.getLast? = some 's' := by
    rw [String.toList_append, List.getLast?_append]
    rfl
  have nonempty : slashed path ++ "secrets" ≠ "" := by
    intro empty
    rw [empty] at last
    cases last
  rw [join_relative something relative, join_relative nonempty (relative_of_not_mem plain),
    slashed, if_neg (by rw [last]; decide), @String.append_assoc (slashed path)]
  rfl

end Path

/-- The directory of a context that states one. -/
theorem Context.directory?_stated {c : Context} (stated : c.projectDir ≠ "") (home : String) :
    c.directory? home = some (Path.expandTilde home c.projectDir) := by
  rw [directory?, if_neg fun empty => stated (String.isEmpty_iff.mp empty)]

/-- The line of a command starts by changing into the directory, as it is spelled. -/
theorem Shell.changes_directory {c : Context} (stated : c.projectDir ≠ "") (command : Command) :
    ∃ rest, readBack (remoteLine c command) =
      some (.word "cd" :: .word c.projectDir :: .operator .both :: rest) := by
  obtain ⟨line, -⟩ := reads_remoteLine c command
  refine ⟨(if c.useSudo then [.word "sudo"] else []) ++ command.words.map .word, ?_⟩
  simp only [readBack, line, List.mapM_append, lexemes_leading, lexemes_words]
  rw [if_neg fun empty => stated (String.isEmpty_iff.mp empty)]
  rfl

/-! ## Files on hosts -/

/-- The file that a server is asked to open. -/
def Ssh.Event.file? : Ssh.Event → Option String
  | .seen (.opened path) => some path
  | _ => none

/-- The files that servers have been asked to open. -/
def Trace.files (t : Trace) : List String := t.connections.filterMap fun entry => entry.2.file?

theorem Trace.files_append {t t' : Trace} {log : List (Nat × Ssh.Event)}
    (added : t'.connections = t.connections ++ log) :
    t'.files = t.files ++ log.filterMap fun entry => entry.2.file? := by
  rw [files, added, List.filterMap_append, files]

namespace Act

variable {α β : Type} {w : World} {path : String}

/-- Servers are asked to open a file or none, and the file if the act succeeds. -/
def Opens (act : Act α) (w : World) (path : String) : Prop :=
  ∀ t, ∃ asked, (act w t).2.files = t.files ++ asked ∧ (asked = [] ∨ asked = [path]) ∧
    ∀ a, (act w t).1 = .ok a → asked = [path]

/-- A file may be opened after an act that opens none. -/
theorem opens_after {act : Act α} {next : α → Act β}
    (silent : ∀ t, (act w t).2.files = t.files) (opens : ∀ a, (next a).Opens w path) :
    (act >>= next).Opens w path := by
  intro t
  have same := silent t
  rw [bind_apply]
  rcases ended : act w t with ⟨f | a, t'⟩
  · rw [ended] at same
    exact ⟨[], by rw [List.append_nil]; exact same, .inl rfl, fun _ ok => by cases ok⟩
  · rw [ended] at same
    rw [← same]
    exact opens a t'

end Act

namespace Ssh

variable {connection : Connection} {w : World}

theorem Connection.overlooks_files {s : Seen} (other : (Event.seen s).file? = none) :
    Overlooks Trace.files s := by
  intro t n
  rw [Trace.files_append rfl]
  simp [other]

/-- Reading a file opens it, unless the connection breaks off before. -/
theorem Connection.readText_opens (path : String) :
    (connection.readText path).Opens w path := by
  have session : connection.openSession.ComesTo Trace.files w connection.admits :=
    openSession_comesTo (overlooks_files rfl)
  have subsystem : (connection.sees (.subsystem "sftp")).ComesTo Trace.files w (.ok ()) :=
    sees_comesTo (overlooks_files rfl)
  refine Act.opens_after (fun t => (session t).2) fun _ => ?_
  refine Act.opens_after (fun t => (reach_comesTo Trace.files _ _ t).2) fun _ => ?_
  refine Act.opens_after (fun t => (subsystem t).2) fun _ => ?_
  refine Act.opens_after (fun t => (reach_comesTo Trace.files _ _ t).2) fun _ t => ?_
  let asked : Trace :=
    { t with connections := t.connections ++ [(connection.number, .seen (.opened path))] }
  have log : asked.connections = t.connections ++ [(connection.number, .seen (.opened path))] :=
    rfl
  exact ⟨[path], Trace.files_append log, .inr rfl, fun _ _ => rfl⟩

/-- Dialing and closing open no files. -/
theorem onHost_opens {α : Type} {c : Context} {work : Connection → Act α} {path : String}
    (opens : ∀ connection, (work connection).Opens w path) : (onHost c work).Opens w path := by
  refine Act.opens_after (fun t => dial_filterMap rfl (fun _ => rfl) c w t)
    fun connection t => ?_
  obtain ⟨asked, added, which, succeeds⟩ := opens connection t
  have closed : (connection.close w (work connection w t).2).2.files =
      (work connection w t).2.files := Connection.close_filterMap rfl connection w _
  exact ⟨asked, closed.trans added, which, succeeds⟩

end Ssh

/-! ## Secrets of a project on another host -/

namespace Compose

open Docker (Client Inspection Mount)

/-- **A secret without a source is looked for in the directory that this machine makes of the
project's.**  Reading the secret of a project on another host, whose first mount states no
source, is reading one file, and no other file is opened: that of the secret's name in the
directory `secrets` of the project's directory, one separator between each two of them.

For this a tilde at the start of the project's directory has become the home directory of the
user of this machine, whereas each command changes into the directory as it is spelled.  The two
are the same exactly if there is no such tilde (or the home directory itself is called that). -/
theorem sourceless_secret_opens {client : Client} {c : Context} {container name : String}
    {w : World} {t after : Trace} {i : Inspection} {m : Mount} (remote : c.kind = .remote)
    (stated : c.projectDir ≠ "") (plain : '/' ∉ name.toList)
    (inspected : client.inspect container w t = (.ok i, after))
    (first : FirstAt (i.mounts.getD []) ("/run/secrets/" ++ name) m)
    (sourceless : m.source = none ∨ m.source = some "") :
    let directory := Path.expandTilde w.environment.home c.projectDir
    let path := Path.slashed directory ++ "secrets/" ++ name
    let ended := secret client c container name w t
    ended = c.readText path w after ∧
    (∃ asked, ended.2.files = t.files ++ asked ∧ (asked = [] ∨ asked = [path]) ∧
      ∀ text, ended.1 = .ok text → asked = [path]) ∧
    (∀ command, ∃ rest, Shell.readBack (Shell.remoteLine c command) =
      some (.word "cd" :: .word c.projectDir :: .operator .both :: rest)) ∧
    (directory = c.projectDir ↔ ¬Path.Tilded c.projectDir ∨ w.environment.home = "~") := by
  intro directory path ended
  have something : directory ≠ "" :=
    Path.expandTilde_ne_empty w.environment.home_ne_empty stated
  have reads : ended = c.readText path w after := by
    have joined : secretPath w.environment.home c m name = path := by
      rw [secretPath_project sourceless, Context.directory?_stated stated]
      exact Path.join_secrets something plain
    rw [← joined]
    exact secret_mounted inspected (secretMount?_eq_some.mpr first)
  refine ⟨reads, ?_, Shell.changes_directory stated, Path.expandTilde_eq_self⟩
  have unopened : after.files = t.files := by rw [inspect_trace inspected]; rfl
  rw [reads, ← unopened, Context.readText_remote remote]
  exact Ssh.onHost_opens (fun _ => Ssh.Connection.readText_opens path) after

/-! ## A project below a home directory -/

/-- The museum's project, below a home directory. -/
def lodge : Context := { Ssh.museum with projectDir := "~/museum" }

/-- A world in which the museum's host has a key below the home directory of this machine. -/
def lodgeWorld : World :=
  { Ssh.familiar [] with network := fun _ _ => .ok {
      hostKey := .ed25519 (List.replicate 32 7)
      files := [("/root/museum/secrets/KEY", [107, 101, 112, 116, 10])] } }

/-- The key is read in the home directory, whereas commands change into a directory called as
the tilde. -/
theorem lodge_key_opened :
    (secret keyClient lodge "search" "KEY" lodgeWorld {}).1 = .ok "kept\n" ∧
    (secret keyClient lodge "search" "KEY" lodgeWorld {}).2.files = ["/root/museum/secrets/KEY"] ∧
    (∀ command, ∃ rest, Shell.readBack (Shell.remoteLine lodge command) =
      some (.word "cd" :: .word "~/museum" :: .operator .both :: rest)) ∧
    Path.expandTilde "/root" "~/museum" ≠ "~/museum" := by
  obtain ⟨reads, ⟨asked, added, -, succeeds⟩, changes, same⟩ :=
    sourceless_secret_opens (c := lodge) rfl (by decide) (by decide)
      (keyClient_inspect lodgeWorld {}) keyMount_first (.inr rfl)
  have kept : (secret keyClient lodge "search" "KEY" lodgeWorld {}).1 = .ok "kept\n" := by
    rw [reads]
    decide +kernel
  have below : Path.Tilded "~/museum" := .inr ⟨"museum", rfl⟩
  refine ⟨kept, ?_, changes, fun equal => ?_⟩
  · rw [added, succeeds _ kept]
    decide
  · rcases same.mp equal with plain | called
    · exact plain below
    · exact absurd called (by decide)

/-- The directory of the secrets of a project on another host is not always that which commands
change into. -/
theorem lodge_key_astray :
    ¬∀ (client : Client) (c : Context) (container name : String) (w : World) (t after : Trace)
        (i : Inspection) (m : Mount),
      c.kind = .remote → c.projectDir ≠ "" → '/' ∉ name.toList →
      client.inspect container w t = (.ok i, after) →
      FirstAt (i.mounts.getD []) ("/run/secrets/" ++ name) m →
      (m.source = none ∨ m.source = some "") →
      ∀ path, (secret client c container name w t).2.files = t.files ++ [path] →
      ∀ directory command rest, Shell.readBack (Shell.remoteLine c command) =
          some (.word "cd" :: .word directory :: .operator .both :: rest) →
        path = Path.join (Path.join directory "secrets") name := by
  intro agrees
  have inspected := keyClient_inspect lodgeWorld {}
  obtain ⟨rest, line⟩ := Shell.changes_directory (c := lodge) (by decide) ⟨"docker", ["ps"]⟩
  have opened : (secret keyClient lodge "search" "KEY" lodgeWorld {}).2.files =
      ["/root/museum/secrets/KEY"] := by
    rw [secret_mounted inspected (secretMount?_eq_some.mpr keyMount_first)]
    decide +kernel
  have same := agrees keyClient lodge "search" "KEY" lodgeWorld {} _ keyInspection keyMount rfl
    (by decide) (by decide) inspected keyMount_first (.inr rfl) _ opened _ _ rest line
  exact absurd same (by decide)

end Compose

end ComposeSite
