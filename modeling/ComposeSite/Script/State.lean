/-
# ComposeSite.Script.State -- a shell between two commands

A shell has variables, functions, the words it was started with, the files it sees and
descriptors.  A descriptor leads to a pipe, which keeps what was written to it, or to a
file.  After a command that ends the script, or leaves a loop, what follows is skipped.
-/
import ComposeSite.Failure
import ComposeSite.Host.Utility.Basic
import ComposeSite.Script.Statement

set_option autoImplicit false

namespace ComposeSite.Script

open Host (FileTree Location)

/-- Where a descriptor leads. -/
inductive Channel where
  | pipe (id : Nat)
  | file (l : Location)
  | nowhere
  deriving DecidableEq, Repr

/-- What is skipped after a command. -/
inductive Flow where
  | onward
  | leaveLoop (levels : Nat)
  | nextRound (levels : Nat)
  | leaveFunction
  | leaveShell
  | killed (signal : Nat)
  deriving DecidableEq, Repr

/-- The value of a variable, and whether programs see it. -/
structure Variable where
  name : String
  value : String
  exported : Bool
  deriving DecidableEq, Repr

/-- A shell between two commands. -/
structure State where
  name : String
  arguments : List String
  bindings : List Variable
  functions : List (String × Statement) := []
  files : FileTree
  descriptors : List (Nat × Channel)
  pipes : List (Nat × List Bytes)
  status : Nat := 0
  flow : Flow := .onward
  stopOnFailure : Bool := false
  guarded : Bool := false
  substituted : Option Nat := none
  atExit : Option String := none

namespace State

/-! ## Variables -/

def valueOf? (s : State) (name : String) : Option String :=
  (s.bindings.find? fun v => v.name = name).map Variable.value

def assign (s : State) (name value : String) : State :=
  if s.bindings.any fun v => v.name = name then
    { s with bindings := s.bindings.map fun v =>
        if v.name = name then { v with value } else v }
  else { s with bindings := s.bindings ++ [⟨name, value, false⟩] }

def «export» (s : State) (name : String) : State :=
  { s with bindings := s.bindings.map fun v =>
      if v.name = name then { v with exported := true } else v }

def unset (s : State) (name : String) : State :=
  { s with bindings := s.bindings.filter fun v => v.name ≠ name }

def environment (s : State) : Environment :=
  ⟨s.bindings.filterMap fun v => if v.exported then some (v.name, v.value) else none⟩

/-! ## Descriptors -/

def channel (s : State) (descriptor : Nat) : Channel :=
  (s.descriptors.lookup descriptor).getD .nowhere

def connect (s : State) (descriptor : Nat) (c : Channel) : State :=
  { s with descriptors := (descriptor, c) :: s.descriptors.filter (·.1 ≠ descriptor) }

def close (s : State) (descriptor : Nat) : State :=
  { s with descriptors := s.descriptors.filter (·.1 ≠ descriptor) }

def contents (s : State) (pipe : Nat) : Bytes :=
  ((s.pipes.lookup pipe).getD []).reverse.flatten

def addPipe (s : State) (data : Bytes) : Nat × State :=
  let id := s.pipes.length
  (id, { s with pipes := s.pipes ++ [(id, [data])] })

/-- Sets what a pipe holds, newest first. -/
def setPipe (s : State) (pipe : Nat) (chunks : List Bytes) : State :=
  { s with pipes := s.pipes.map fun (id, old) => if id = pipe then (id, chunks) else (id, old) }

def setEntry (s : State) (l : Location) (e : Host.Entry) : State :=
  { s with files := { s.files with
      entries := (l, e) :: s.files.entries.filter (·.1 ≠ l) } }

def write (s : State) (descriptor : Nat) (data : Bytes) : State :=
  match s.channel descriptor with
  | .pipe id => s.setPipe id (data :: (s.pipes.lookup id).getD [])
  | .file l =>
      match s.files.entry? l with
      | some (.file content executable) => s.setEntry l (.file (content ++ data) executable)
      | _ => s
  | .nowhere => s

def writeText (s : State) (descriptor : Nat) (text : String) : State :=
  s.write descriptor (Text.Utf8.encode text)

def input (s : State) : Bytes :=
  match s.channel 0 with
  | .pipe id => s.contents id
  | _ => []

def setInput (s : State) (rest : Bytes) : State :=
  match s.channel 0 with
  | .pipe id => s.setPipe id [rest]
  | _ => s

/-! ## Ends -/

def ended (s : State) (status : Nat) : State := { s with status }

def complain (s : State) (line : Nat) (text : String) : State :=
  s.writeText 2 s!"{s.name}: {line}: {text}\n"

/-- Whether what follows is to be done. -/
def goesOn (s : State) : Bool := s.flow = .onward

def leave (s : State) (status : Nat) : State := { s with status, flow := .leaveShell }

/-- Leaves the shell after a failure if it is to stop on failures. -/
def checked (s : State) : State :=
  if s.stopOnFailure && !s.guarded && s.status ≠ 0 && s.goesOn then s.leave s.status else s

def ending (s : State) : ExitStatus :=
  match s.flow with
  | .killed n => .signal n
  | _ => .code (s.status % 256)

end State

end ComposeSite.Script
