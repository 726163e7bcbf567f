/-
# ComposeSite.Context.Summary -- a context for its reader

The settings are shown as they were written; those of a host only if there is one.
-/
import ComposeSite.Context.Basic
import ComposeSite.Output.Style

set_option autoImplicit false

namespace ComposeSite.Context

open Output (Style)

/-- How the database of a context is told of. -/
def databaseText (c : Context) : String :=
  s!"{c.databaseUser}@{c.databaseService}/{c.databaseName} " ++
    s!"(password: {c.databasePasswordSecret})"

def hostLines (c : Context) (styled : Bool) : List String :=
  if c.isRemote then
    ["  SSH:          " ++
        Style.value.apply styled s!"{c.sshUser}@{c.sshHostname}:{c.sshPort}",
      "  SSH key:      " ++ Style.aside.apply styled c.sshKey,
      "  Sudo:         " ++ (if c.useSudo then Style.agreed.apply styled "enabled"
        else Style.aside.apply styled "disabled")]
  else []

/-- The lines that tell of a context and of the file that it is from. -/
def summary (c : Context) (file : String) (styled : Bool) : List String :=
  let shown (s : String) : String := Style.value.apply styled s
  [Style.heading.apply styled ("Context " ++ c.name),
    "",
    "  Type:         " ++ shown c.kind.name,
    "  Project:      " ++ shown c.projectName,
    "  Project dir:  " ++ shown c.projectDir,
    "  Docker:       " ++ Style.aside.apply styled c.dockerSocket,
    "  Profile:      " ++ (match c.profile with
      | some p => shown p
      | none => Style.aside.apply styled "(none)"),
    "  Database:     " ++ shown c.databaseText] ++
  c.hostLines styled ++
  ["", "Config file: " ++ Style.aside.apply styled file]

end ComposeSite.Context
