/-
# ComposeSite.Proofs.Act.Permit -- what acts are allowed to do

A `Permit` says which requests may be sent to daemons, which events may happen on
connections, which keys may be read and which programs may be started.  An act that
`Obeys` a permit in a world does nothing else, from whatever trace it starts, and every
result that it gives is of a stated kind.

The rules follow the ways in which acts are put together: an act that is followed by
another hands on what is known of its result (`Obeys.bind`), and what an act does outside
the four logs needs no permit (`obeys_print`, `Obeys.inRawMode`).
-/
import ComposeSite.Act

set_option autoImplicit false

namespace ComposeSite

/-! ## Permits -/

/-- A log is continued by entries of one kind. -/
def Adds {β : Type} (allowed : β → Prop) (before after : List β) : Prop :=
  ∃ new, after = before ++ new ∧ ∀ x ∈ new, allowed x

namespace Adds

variable {β : Type} {allowed : β → Prop}

theorem refl (log : List β) : Adds allowed log log :=
  ⟨[], (List.append_nil log).symm, by simp⟩

theorem single {x : β} (log : List β) (permitted : allowed x) : Adds allowed log (log ++ [x]) :=
  ⟨[x], rfl, by simpa using permitted⟩

theorem trans {first second third : List β} (one : Adds allowed first second)
    (two : Adds allowed second third) : Adds allowed first third := by
  obtain ⟨early, rfl, earlyAllowed⟩ := one
  obtain ⟨late, rfl, lateAllowed⟩ := two
  refine ⟨early ++ late, List.append_assoc .., fun x mem => ?_⟩
  rcases List.mem_append.mp mem with mem | mem
  · exact earlyAllowed x mem
  · exact lateAllowed x mem

/-- A log to which nothing may be added stays as it is. -/
theorem eq_of_forbidden {before after : List β} (added : Adds (fun _ => False) before after) :
    after = before := by
  obtain ⟨new, rfl, none⟩ := added
  obtain rfl : new = [] := List.eq_nil_iff_forall_not_mem.mpr none
  exact List.append_nil before

end Adds

/-- What may be asked of daemons, what may happen on connections, and which keys may be read
and programs started. -/
structure Permit where
  request : Docker.Request → Prop := fun _ => True
  event : Ssh.Event → Prop := fun _ => True
  key : String → Prop := fun _ => True
  program : Shell.Command → Prop := fun _ => True

/-- Nothing has been added to a trace that is not permitted. -/
structure Permit.Covers (p : Permit) (before after : Trace) : Prop where
  requests : Adds p.request before.requests after.requests
  connections : Adds (fun entry => p.event entry.2) before.connections after.connections
  keysRead : Adds p.key before.keysRead after.keysRead
  started : Adds (fun child => p.program child.command) before.started after.started

namespace Permit.Covers

variable {p : Permit}

theorem refl (t : Trace) : p.Covers t t := ⟨.refl _, .refl _, .refl _, .refl _⟩

theorem trans {first second third : Trace} (one : p.Covers first second)
    (two : p.Covers second third) : p.Covers first third :=
  ⟨one.requests.trans two.requests, one.connections.trans two.connections,
    one.keysRead.trans two.keysRead, one.started.trans two.started⟩

end Permit.Covers

namespace Act

variable {α β : Type} {w : World} {p : Permit}

/-- In a world, an act does what is permitted and nothing else, and gives only results of
one kind. -/
def Obeys (act : Act α) (w : World) (p : Permit) (gives : α → Prop) : Prop :=
  ∀ t, p.Covers t (act w t).2 ∧ ∀ a, (act w t).1 = .ok a → gives a

/-! ## Rules -/

theorem Obeys.weaken {act : Act α} {gives gives' : α → Prop} (obeys : act.Obeys w p gives)
    (weaker : ∀ a, gives a → gives' a) : act.Obeys w p gives' :=
  fun t => ⟨(obeys t).1, fun a ok => weaker a ((obeys t).2 a ok)⟩

theorem obeys_pure {a : α} {gives : α → Prop} (good : gives a) :
    (pure a : Act α).Obeys w p gives :=
  fun t => ⟨.refl t, fun b ok => by cases ok; exact good⟩

theorem obeys_fail {f : Failure} {gives : α → Prop} : (Act.fail f : Act α).Obeys w p gives :=
  fun t => ⟨.refl t, fun _ ok => by cases ok⟩

theorem obeys_ofResult {r : Except Failure α} : (Act.ofResult r).Obeys w p fun a => r = .ok a :=
  fun t => ⟨.refl t, fun _ ok => ok⟩

theorem obeys_look {view : World → α} : (Act.look view).Obeys w p fun a => view w = a :=
  fun t => ⟨.refl t, fun _ ok => by cases ok; rfl⟩

theorem obeys_examine {view : World → Except Failure α} :
    (Act.examine view).Obeys w p fun a => view w = .ok a :=
  fun t => ⟨.refl t, fun _ ok => ok⟩

theorem obeys_note {change : Trace → Trace} (covered : ∀ t, p.Covers t (change t)) :
    (Act.note change).Obeys w p fun _ => True :=
  fun t => ⟨covered t, fun _ _ => trivial⟩

theorem Obeys.bind {act : Act α} {next : α → Act β} {gives : α → Prop} {gives' : β → Prop}
    (first : act.Obeys w p gives) (second : ∀ a, gives a → (next a).Obeys w p gives') :
    (act >>= next).Obeys w p gives' := by
  intro t
  obtain ⟨covered, good⟩ := first t
  rw [bind_apply]
  rcases ended : act w t with ⟨_ | a, t'⟩
  · rw [ended] at covered
    exact ⟨covered, fun _ ok => by cases ok⟩
  · rw [ended] at covered good
    obtain ⟨covered', good'⟩ := second a (good a rfl) t'
    exact ⟨covered.trans covered', good'⟩

theorem Obeys.seq {act : Act α} {next : α → Act β} {gives : β → Prop}
    (first : act.Obeys w p fun _ => True) (second : ∀ a, (next a).Obeys w p gives) :
    (act >>= next).Obeys w p gives :=
  first.bind fun a _ => second a

theorem Obeys.map {act : Act α} {f : α → β} {gives : β → Prop}
    (obeys : act.Obeys w p fun a => gives (f a)) : (f <$> act).Obeys w p gives := by
  rw [map_eq_pure_bind]
  exact obeys.bind fun _ good => obeys_pure good

theorem Obeys.ensuring {act : Act α} {last : Act Unit} {gives : α → Prop}
    (obeys : act.Obeys w p gives) (after : last.Obeys w p fun _ => True) :
    (act.ensuring last).Obeys w p gives :=
  fun t => ⟨(obeys t).1.trans (after _).1, (obeys t).2⟩

theorem Obeys.blaming {act : Act α} {words : Failure → Failure} {gives : α → Prop}
    (obeys : act.Obeys w p gives) : (act.blaming words).Obeys w p gives := by
  intro t
  obtain ⟨covered, good⟩ := obeys t
  refine ⟨covered, fun a ok => good a ?_⟩
  simp only [Act.blaming] at ok
  cases ended : (act w t).1 with
  | error f => rw [ended] at ok; cases ok
  | ok b => rw [ended] at ok; exact ok

theorem Obeys.attempt {act : Act α} {gives : α → Prop} (obeys : act.Obeys w p gives) :
    act.attempt.Obeys w p fun r => ∀ a, r = .ok a → gives a :=
  fun t => ⟨(obeys t).1, fun r ok => by cases ok; exact (obeys t).2⟩

theorem Obeys.inRawMode {act : Act α} {gives : α → Prop} (obeys : act.Obeys w p gives) :
    act.inRawMode.Obeys w p gives := by
  intro t
  have frame (t' : Trace) (events : List Terminal.Event) (covered : p.Covers t t') :
      p.Covers t { t' with log := t.log ++ events } :=
    ⟨covered.requests, covered.connections, covered.keysRead, covered.started⟩
  simp only [Act.inRawMode, Terminal.withRawMode]
  by_cases isTerminal : w.terminal.isTerminal
  · by_cases failsEnabling : w.terminal.failsEnabling
    · rw [if_pos isTerminal, if_pos failsEnabling]
      exact ⟨frame _ _ (.refl t), fun _ ok => by cases ok⟩
    · rw [if_pos isTerminal, if_neg failsEnabling]
      exact ⟨frame _ _ (obeys t).1, (obeys t).2⟩
  · rw [if_neg isTerminal]
    exact ⟨frame _ _ (obeys t).1, (obeys t).2⟩

theorem Obeys.mapM {next : α → Act β} {gives : β → Prop} {xs : List α}
    (each : ∀ a ∈ xs, (next a).Obeys w p gives) :
    (xs.mapM next).Obeys w p fun bs => ∀ b ∈ bs, gives b := by
  induction xs with
  | nil => exact obeys_pure (by simp)
  | cons a xs ih =>
      rw [List.mapM_cons]
      have rest := ih fun b mem => each b (List.mem_cons_of_mem a mem)
      refine (each a List.mem_cons_self).bind fun b good => rest.bind fun bs goods => ?_
      exact obeys_pure (List.forall_mem_cons.mpr ⟨good, goods⟩)

theorem obeys_print {text : String} : (Act.print text).Obeys w p fun _ => True :=
  obeys_note fun _ => ⟨.refl _, .refl _, .refl _, .refl _⟩

theorem obeys_printLine {line : String} : (Act.printLine line).Obeys w p fun _ => True :=
  obeys_print

/-- Printing line after line. -/
theorem obeys_printLines {lines : List α} {text : α → String} :
    (forIn lines PUnit.unit fun a _ => do
      Act.printLine (text a)
      pure (ForInStep.yield PUnit.unit) : Act PUnit).Obeys w p fun _ => True := by
  induction lines with
  | nil => exact obeys_pure trivial
  | cons a lines ih =>
      rw [List.forIn_cons, bind_assoc]
      exact obeys_printLine.bind fun _ _ => ih

end Act

end ComposeSite
