/-
# ComposeSite.Output.LastLine -- the last line that says something

Octets arrive in pieces cut anywhere.  Complete lines are looked at as they
arrive, and what follows the last line feed waits.  A line that is blank after
trimming never replaces one that is not.
-/
import ComposeSite.Text.Blank
import ComposeSite.Text.Split
import ComposeSite.Text.Utf8

set_option autoImplicit false

namespace ComposeSite.Output

/-- The octets after the last line feed, and the last line that was not blank. -/
structure LastLine where
  pending : Bytes := []
  last : String := ""
  deriving DecidableEq, Repr

namespace LastLine

def pushLine (l : LastLine) (line : String) : LastLine :=
  let trimmed := Text.trim line
  if trimmed.isEmpty then l else { l with last := trimmed }

def lineFeed : UInt8 := 10

def push (l : LastLine) (chunk : Bytes) : LastLine :=
  let parts := Text.split lineFeed (l.pending ++ chunk)
  let seen := parts.dropLast.foldl (fun l part => l.pushLine (Text.Utf8.decodeLossy part)) l
  { seen with pending := (parts.getLast?).getD [] }

/-- The last line, with what still waits counted as a line. -/
def finish (l : LastLine) : String :=
  (l.pushLine (Text.Utf8.decodeLossy l.pending)).last

end LastLine

end ComposeSite.Output
