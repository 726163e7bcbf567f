/-
# ComposeSite.Script.Start -- what a program is started with

A program is started with words, where it finds files, variables and its input.
-/
import ComposeSite.Environment
import ComposeSite.Host.FileTree
import ComposeSite.Shell.Word

set_option autoImplicit false

namespace ComposeSite.Script

structure Start where
  program : String
  args : List String
  files : Host.FileTree
  environment : Environment
  input : Bytes

def Start.command (s : Start) : Shell.Command := ⟨s.program, s.args⟩

end ComposeSite.Script
