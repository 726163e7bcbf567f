/-
# ComposeSite.Act -- things a command does

An act looks at the world and extends the trace; it ends with a result or with a
failure, and what it did before a failure stays done.
-/
import ComposeSite.Output.Style
import ComposeSite.World

set_option autoImplicit false

namespace ComposeSite

/-- Something a command does. -/
def Act (α : Type) : Type := World → Trace → Except Failure α × Trace

namespace Act

variable {α β : Type}

def done (a : α) : Act α := fun _ t => (.ok a, t)

/-- Does one thing and then, unless it failed, another. -/
def andThen (act : Act α) (next : α → Act β) : Act β := fun w t =>
  match act w t with
  | (.ok a, t) => next a w t
  | (.error f, t) => (.error f, t)

instance : Monad Act where
  pure := done
  bind := andThen

def fail (f : Failure) : Act α := fun _ t => (.error f, t)

/-- Ends with a result that is known already. -/
def ofResult (r : Except Failure α) : Act α := fun _ t => (r, t)

def look (view : World → α) : Act α := fun w t => (.ok (view w), t)

/-- Looks at the world, and may fail. -/
def examine (view : World → Except Failure α) : Act α := fun w t => (view w, t)

def note (change : Trace → Trace) : Act Unit := fun _ t => (.ok (), change t)

/-- Does something, and then something else whether or not it failed; the result is that of
the first. -/
def ensuring (act : Act α) (last : Act Unit) : Act α := fun w t =>
  let (r, t) := act w t
  (r, (last w t).2)

/-- Does something and gives how it ended. -/
def attempt (act : Act α) : Act (Except Failure α) := fun w t =>
  let (r, t) := act w t
  (.ok r, t)

/-- Does something and tells of its failure in other words. -/
def blaming (act : Act α) (words : Failure → Failure) : Act α := fun w t =>
  let (r, t) := act w t
  (r.mapError words, t)

/-- Writes to the output. A full sink is not noticed. -/
def print (text : String) : Act Unit :=
  note fun t => { t with stdout := (t.stdout.write (Text.Utf8.encode text)).1 }

def printLine (line : String) : Act Unit := print (line ++ "\n")

/-- Does something with the terminal in raw mode. What it logs stands between the terminal's
events. -/
def inRawMode (act : Act α) : Act α := fun w t =>
  let work : Terminal.Work Trace α := fun t =>
    let (r, after) := act w t
    (after.log.drop t.log.length, after, r)
  let (events, after, r) := w.terminal.withRawMode work t
  (r, { after with log := t.log ++ events })

def home : Act String := look fun w => w.environment.home

def styled : Act Bool := look fun w => Output.Style.isForced w.environment

@[simp]
theorem pure_apply (a : α) (w : World) (t : Trace) : (pure a : Act α) w t = (.ok a, t) := rfl

theorem bind_apply (act : Act α) (next : α → Act β) (w : World) (t : Trace) :
    (act >>= next) w t = match act w t with
      | (.ok a, t) => next a w t
      | (.error f, t) => (.error f, t) := rfl

@[simp]
theorem bind_ok {act : Act α} {next : α → Act β} {w : World} {t t' : Trace} {a : α}
    (h : act w t = (.ok a, t')) : (act >>= next) w t = next a w t' := by
  rw [bind_apply, h]

@[simp]
theorem bind_error {act : Act α} {next : α → Act β} {w : World} {t t' : Trace} {f : Failure}
    (h : act w t = (.error f, t')) : (act >>= next) w t = (.error f, t') := by
  rw [bind_apply, h]

instance : LawfulMonad Act :=
  LawfulMonad.mk' Act
    (fun act => by
      funext w t
      show (match act w t with
        | (.ok a, t) => (pure (id a) : Act _) w t
        | (.error f, t) => (.error f, t)) = act w t
      rcases act w t with ⟨r, t'⟩
      cases r <;> rfl)
    (fun _ _ => rfl)
    (fun act _ _ => by
      funext w t
      simp only [bind_apply]
      rcases act w t with ⟨r, t'⟩
      cases r <;> rfl)

end Act

end ComposeSite
