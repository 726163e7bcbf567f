/-
# ComposeSite.Terminal -- raw mode around a piece of work

A terminal is put into raw mode before the work and back after it, however the
work ends.  A terminal that is none gets no event; if raw mode cannot be entered
the work does not begin; a failure to leave it changes nothing about the result.
-/
import ComposeSite.Failure

set_option autoImplicit false

namespace ComposeSite

/-- A local terminal, and which of its changes of mode fail. -/
structure Terminal where
  isTerminal : Bool := false
  failsEnabling : Bool := false
  failsDisabling : Bool := false
  columns : Nat := 80
  rows : Nat := 40
  deriving DecidableEq, Repr

namespace Terminal

/-- What happens to a terminal, or beside it. -/
inductive Event where
  | enable
  | disable
  | work
  deriving DecidableEq, Repr

def Event.isMode : Event → Bool
  | enable | disable => true
  | work => false

def Event.name : Event → String
  | enable => "enable"
  | disable => "disable"
  | work => "body"

def refusal (e : Event) : Failure := .other s!"terminal refused {e.name}"

/-- What asking for something gives where there is no terminal to ask on. -/
def noPrompt : IoFailure := .other "not a terminal"

/-- Work on a state, with what happens to the terminal and beside it, in this order, and with its
result. -/
abbrev Work (σ α : Type) := σ → List Event × σ × Except Failure α

/-- Does the work with the terminal in raw mode. -/
def withRawMode {σ α : Type} (t : Terminal) (work : Work σ α) : Work σ α := fun s =>
  if t.isTerminal then
    if t.failsEnabling then ([.enable], s, .error (refusal .enable))
    else
      let (events, s, result) := work s
      (.enable :: events ++ [.disable], s, result)
  else work s

end Terminal

end ComposeSite
