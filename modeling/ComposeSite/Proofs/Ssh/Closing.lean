/-
# ComposeSite.Proofs.Ssh.Closing -- what is dialed is closed

What happens on one connection is its history in the log of all of them (`Trace.history`).
An act that only lets a server hear things (`Act.SpeaksOn`) lengthens one history;
running a command, reading a file and connecting to a daemon behind a host are of this kind,
so between dialing and closing there is nothing else (`onHost_lived`).

Acts that may dial on their own account are followed through by `Act.Keeps`: connections
made before are left alone, those that the act works on are still open after it, and those
that it makes have been closed once.  Work on a host keeps connections if what is done there
does (`onHost_keeps`), which makes all commands do so, also those that dial a second time
while the first connection is open.
-/
import ComposeSite.Proofs.Ssh.HostKey

set_option autoImplicit false

namespace ComposeSite

open Ssh (Connection Event Seen)

/-! ## Histories -/

namespace Trace

/-- What has happened on a connection. -/
def history (t : Trace) (n : Nat) : List Event :=
  (t.connections.filter fun entry => entry.1 = n).map (·.2)

/-- All that has happened has happened on connections that were made. So it is before anything
has happened, and acts that keep connections (`Ssh.Kept`) leave it so. -/
def Numbered (t : Trace) : Prop := ∀ entry ∈ t.connections, entry.1 < t.connectionCount

/-- How often something has happened on a connection is told by its history. -/
theorem count_history (t : Trace) (n : Nat) (e : Event) :
    t.connections.count (n, e) = (t.history n).count e := by
  rw [history]
  induction t.connections with
  | nil => rfl
  | cons entry log ih =>
      obtain ⟨m, e'⟩ := entry
      by_cases same : m = n
      · subst same
        simp [List.count_cons, ih]
      · simp [same, ih]

theorem isClosed_iff {t : Trace} {n : Nat} : t.isClosed n = true ↔ Event.closed ∈ t.history n := by
  simp [isClosed, history]

/-- Nothing has happened on a connection that has not been made. -/
theorem Numbered.history_eq_nil {t : Trace} (numbered : t.Numbered) {n : Nat}
    (unmade : t.connectionCount ≤ n) : t.history n = [] := by
  rw [history, List.map_eq_nil_iff, List.filter_eq_nil_iff]
  intro entry mem same
  have made := numbered entry mem
  simp only [decide_eq_true_eq] at same
  omega

variable {t t' : Trace} {log : List (Nat × Event)}
  (added : t'.connections = t.connections ++ log)

include added

theorem history_append (n : Nat) :
    t'.history n = t.history n ++ (log.filter fun entry => entry.1 = n).map (·.2) := by
  rw [history, added, List.filter_append, List.map_append, history]

theorem connectionCount_append :
    t'.connectionCount = t.connectionCount + (log.filter fun (_, e) => e = .connected).length := by
  rw [connectionCount, added, List.filter_append, List.length_append, connectionCount]

theorem Numbered.append (numbered : t.Numbered)
    (made : ∀ entry ∈ log, entry.1 < t'.connectionCount) : t'.Numbered := by
  intro entry happened
  rw [added, List.mem_append] at happened
  rcases happened with before | since
  · have grows := connectionCount_append added
    have old := numbered entry before
    omega
  · exact made entry since

end Trace

namespace Ssh

/-- What a server hears on a connection. -/
def heardOn (n : Nat) (said : List Seen) : List (Nat × Event) := said.map fun s => (n, .seen s)

/-- All that happens on a connection: it is made, the server hears things, and it is closed. -/
def life (n : Nat) (said : List Seen) : List (Nat × Event) :=
  (n, .connected) :: heardOn n said ++ [(n, .closed)]

/-- A connection has been closed once, and nothing has happened on it since. -/
def ClosedOnce (history : List Event) : Prop :=
  ∃ said : List Seen, history = .connected :: said.map .seen ++ [.closed]

theorem ClosedOnce.count_eq_one {history : List Event} (closed : ClosedOnce history) :
    history.count .closed = 1 := by
  obtain ⟨said, rfl⟩ := closed
  have none : (said.map Event.seen).count .closed = 0 := List.count_eq_zero.mpr (by simp)
  simp [none]

theorem heardOn_append (n : Nat) (said more : List Seen) :
    heardOn n (said ++ more) = heardOn n said ++ heardOn n more := List.map_append

theorem filter_heardOn (n m : Nat) (said : List Seen) :
    ((heardOn n said).filter fun entry => entry.1 = m).map (·.2) =
      if n = m then said.map .seen else [] := by
  induction said with
  | nil => simp [heardOn]
  | cons s said ih =>
      simp only [heardOn, List.map_cons] at ih ⊢
      by_cases same : n = m
      · rw [List.filter_cons_of_pos (by simpa using same), List.map_cons, ih]
        simp [same]
      · rw [List.filter_cons_of_neg (by simpa using same), ih]
        simp [same]

theorem number_heardOn {n : Nat} {said : List Seen} {entry : Nat × Event}
    (mem : entry ∈ heardOn n said) : entry.1 = n := by
  obtain ⟨s, -, rfl⟩ := List.mem_map.mp mem
  rfl

theorem connected_heardOn (n : Nat) (said : List Seen) :
    ((heardOn n said).filter fun (_, e) => e = .connected).length = 0 := by
  rw [List.length_eq_zero_iff, List.filter_eq_nil_iff]
  simp [heardOn]

end Ssh

/-! ## Acts that speak -/

/-- Nothing happens on connections. -/
def Permit.offline : Permit := { event := fun _ => False }

theorem Permit.offline_asks : Permit.offline.AllowsAbout fun _ => True := fun _ _ => trivial

namespace Act

variable {α β : Type} {w : World} {k : Nat}

/-- All that an act does to connections is that the server hears things on one. -/
def SpeaksOn (act : Act α) (w : World) (k : Nat) : Prop :=
  ∀ t, ∃ said, (act w t).2.connections = t.connections ++ Ssh.heardOn k said

theorem speaks_of_quiet {act : Act α} (quiet : ∀ t, (act w t).2.connections = t.connections) :
    act.SpeaksOn w k :=
  fun t => ⟨[], by rw [quiet t]; exact (List.append_nil _).symm⟩

theorem Obeys.quiet {act : Act α} {gives : α → Prop} (obeys : act.Obeys w .offline gives)
    (t : Trace) : (act w t).2.connections = t.connections :=
  (obeys t).1.connections.eq_of_forbidden

theorem Obeys.speaks {act : Act α} {gives : α → Prop} (obeys : act.Obeys w .offline gives) :
    act.SpeaksOn w k :=
  speaks_of_quiet obeys.quiet

theorem SpeaksOn.bind {act : Act α} {next : α → Act β} (first : act.SpeaksOn w k)
    (second : ∀ a, (next a).SpeaksOn w k) : (act >>= next).SpeaksOn w k := by
  intro t
  obtain ⟨said, log⟩ := first t
  rw [bind_apply]
  rcases ended : act w t with ⟨_ | a, t'⟩
  · exact ⟨said, by simpa [ended] using log⟩
  · obtain ⟨more, log'⟩ := second a t'
    rw [ended] at log
    exact ⟨said ++ more, by rw [log', log, Ssh.heardOn_append, List.append_assoc]⟩

theorem SpeaksOn.attempt {act : Act α} (speaks : act.SpeaksOn w k) : act.attempt.SpeaksOn w k :=
  speaks

end Act

namespace Ssh.Connection

variable {c : Connection} {w : World}

theorem sees_speaks (s : Seen) : (c.sees s).SpeaksOn w c.number := fun _ => ⟨[s], rfl⟩

theorem openSession_speaks : c.openSession.SpeaksOn w c.number := by
  refine reach_obeys.speaks.bind fun _ => ?_
  split
  · exact sees_speaks _
  · exact Act.speaks_of_quiet fun _ => rfl

theorem request_speaks (r : Refusal) (seen : Seen) : (c.request r seen).SpeaksOn w c.number := by
  rw [request]
  split
  · exact sees_speaks _
  · exact Act.speaks_of_quiet fun _ => rfl

theorem converse_speaks (line : String) : (c.converse line).SpeaksOn w c.number := by
  intro t
  have heard (s : Session.State) : ∃ said, c.heard s = heardOn c.number said := by
    rw [Connection.heard]
    split
    · exact ⟨[.inputClosed], rfl⟩
    · exact ⟨[], rfl⟩
  obtain ⟨said, same⟩ := heard (Session.drive w.terminal line
    ({ sink := t.stdout, allowance := c.server.sends }, c.timeline w.stdin)).2.1.1
  exact ⟨said, congrArg (t.connections ++ ·) same⟩

theorem run_speaks (line : String) : (c.run line).SpeaksOn w c.number := by
  refine openSession_speaks.bind fun _ => Act.obeys_look.speaks.bind fun _ => ?_
  refine reach_obeys.speaks.bind fun _ => (request_speaks _ _).bind fun _ => ?_
  refine reach_obeys.speaks.bind fun _ => (request_speaks _ _).bind fun _ => ?_
  exact converse_speaks line

theorem readText_speaks (path : String) : (c.readText path).SpeaksOn w c.number := by
  refine openSession_speaks.bind fun _ => reach_obeys.speaks.bind fun _ => ?_
  refine (sees_speaks _).bind fun _ => reach_obeys.speaks.bind fun _ => ?_
  exact (sees_speaks _).bind fun _ => Act.obeys_ofResult.speaks

theorem openSocket_speaks (path : String) : (c.openSocket path).SpeaksOn w c.number := by
  refine (sees_speaks _).bind fun _ => ?_
  split
  · exact Act.speaks_of_quiet fun _ => rfl
  · exact Act.speaks_of_quiet fun _ => rfl

end Ssh.Connection

theorem Docker.connectThrough_speaks {connection : Connection} {w : World} (path : String) :
    (connectThrough connection path).SpeaksOn w connection.number := by
  refine Act.obeys_look.speaks.bind fun _ => ?_
  refine (Connection.openSocket_speaks path).attempt.bind fun reached => ?_
  split
  · exact (negotiate_obeys Permit.offline_asks).speaks
  · exact Act.speaks_of_quiet fun _ => rfl

/-! ## Dialing -/

namespace Ssh

variable {c : Context} {w : World} {α : Type}

/-- What dialing notes of a connection that it makes. -/
def greeting (n : Nat) (users : List String) : List (Nat × Event) :=
  (n, .connected) :: heardOn n (users.map .user)

theorem readKey_apply (target : Target) (w : World) (t : Trace) : readKey target w t =
    (loadKey w.files target.keyPath w.passphrase,
      { t with keysRead := t.keysRead ++ [target.keyPath] }) := rfl

/-- A host that is vouched for is told the user's name, whether or not it accepts the key. -/
theorem introduce_vouched {target : Target} {server : Server}
    (vouched : checkHostKey w.files target server.hostKey = .ok ()) (number : Nat) (t : Trace) :
    introduce number target server w t =
      (if server.refuses.contains .user then
          .error (.ssh (.keyRejected target.address target.keyPath target.user))
        else .ok ⟨number, target, server⟩,
        { t with connections := t.connections ++ [(number, .seen (.user target.user))] }) := by
  simp only [introduce, Act.bind_apply, Act.examine, vouched, noteEvent, Act.note]
  split <;> rfl

/-- Dialing a host comes to one end, whatever has happened before: it fails, and a connection
that it has made is given up, or it gives a new connection on which the user was named. -/
theorem dial_cases (c : Context) (w : World) :
    (∃ f, ∀ t, (dial c w t).1 = .error f ∧
      ((dial c w t).2.connections = t.connections ∨ ∃ users, (dial c w t).2.connections =
        t.connections ++ greeting t.connectionCount users)) ∨
    ∃ target server, ∀ t, (dial c w t).1 = .ok ⟨t.connectionCount, target, server⟩ ∧
      (dial c w t).2.connections = t.connections ++ greeting t.connectionCount [target.user] := by
  cases addressed : c.sshTarget w.environment.home with
  | error f =>
      refine .inl ⟨f, fun t => ?_⟩
      have fails : dial c w t = (.error f, t) :=
        Act.bind_error (by rw [Act.examine, addressed])
      exact fails ▸ ⟨rfl, .inl rfl⟩
  | ok target =>
  have hasTarget (t : Trace) :
      (Act.examine fun w => c.sshTarget w.environment.home) w t = (.ok target, t) := by
    rw [Act.examine, addressed]
  cases loads : loadKey w.files target.keyPath w.passphrase with
  | error f =>
      refine .inl ⟨f, fun t => ?_⟩
      have unread := readKey_apply target w t
      rw [loads] at unread
      rw [dial, Act.bind_ok (hasTarget t), Act.bind_error unread]
      exact ⟨rfl, .inl rfl⟩
  | ok key =>
  cases presents : w.network target.hostname target.port with
  | error why =>
      refine .inl ⟨whileDialing target.address (unreachedFailure target why), fun t => ?_⟩
      have hasKey := readKey_apply target w t
      rw [loads] at hasKey
      have unreached (t : Trace) :
          connect target w t = (.error (unreachedFailure target why), t) :=
        Act.bind_error (by rw [Act.examine, presents]; rfl)
      rw [dial, Act.bind_ok (hasTarget t), Act.bind_ok hasKey, Act.blaming, unreached]
      exact ⟨rfl, .inl rfl⟩
  | ok server =>
  have dialed := dial_eq addressed loads presents
  cases vouched : checkHostKey w.files target server.hostKey with
  | error f =>
      refine .inl ⟨whileDialing target.address f, fun t => ?_⟩
      have refused : introduce t.connectionCount target server w (turnedAway target t) =
          (.error f, turnedAway target t) :=
        Act.bind_error (by rw [Act.examine, vouched])
      rw [dialed, Act.blaming, refused]
      exact ⟨rfl, .inr ⟨[], rfl⟩⟩
  | ok passed =>
      have named (t : Trace) : (dial c w t).2.connections =
          t.connections ++ greeting t.connectionCount [target.user] := by
        rw [dialed, Act.blaming, introduce_vouched vouched]
        exact List.append_assoc ..
      by_cases refuses : server.refuses.contains .user = true
      · refine .inl ⟨.ssh (.keyRejected target.address target.keyPath target.user), fun t =>
          ⟨?_, .inr ⟨_, named t⟩⟩⟩
        rw [dialed, Act.blaming, introduce_vouched vouched, if_pos refuses]
        rfl
      · refine .inr ⟨target, server, fun t => ⟨?_, named t⟩⟩
        rw [dialed, Act.blaming, introduce_vouched vouched, if_neg refuses]
        rfl

/-- Dialing the host of a context succeeds. -/
def Dials (c : Context) (w : World) : Prop := ∀ t, ∃ connection, (dial c w t).1 = .ok connection

/-- A host that has been dialed once can be dialed at any time, and is given a new number. -/
theorem dials_of_ok {t t₁ : Trace} {connection : Connection}
    (dialed : dial c w t = (.ok connection, t₁)) :
    Dials c w ∧ connection.number = t.connectionCount ∧
      ∃ user, t₁.connections = t.connections ++ greeting t.connectionCount [user] := by
  rcases dial_cases c w with ⟨f, fails⟩ | ⟨target, server, succeeds⟩
  · have failed := (fails t).1
    rw [dialed] at failed
    cases failed
  · obtain ⟨given, log⟩ := succeeds t
    rw [dialed] at given log
    cases given
    exact ⟨fun t => ⟨_, (succeeds t).1⟩, rfl, _, log⟩

/-! ## Closing -/

namespace Connection

variable {connection : Connection} {t : Trace}

/-- Closing a connection that has been closed does nothing. -/
theorem close_closed (closed : t.isClosed connection.number = true) :
    connection.close w t = (.ok (), t) := by
  rw [close, if_pos closed]

theorem close_open (isOpen : Event.closed ∉ t.history connection.number) :
    connection.close w t =
      (.ok (), { t with connections := t.connections ++ [(connection.number, .closed)] }) := by
  rw [close, if_neg fun closed => isOpen (Trace.isClosed_iff.mp closed), noteEvent, Act.note]

/-- Closing does not fail. -/
theorem close_ok (connection : Connection) (w : World) (t : Trace) :
    connection.close w t = (.ok (), (connection.close w t).2) := by
  rw [close]
  split <;> rfl

/-- Whatever has happened on a connection, it is closed once it has been closed. -/
theorem isClosed_close (connection : Connection) (w : World) (t : Trace) :
    (connection.close w t).2.isClosed connection.number = true := by
  by_cases closed : t.isClosed connection.number = true
  · rw [close_closed closed, closed]
  · rw [close_open fun mem => closed (Trace.isClosed_iff.mpr mem)]
    simp [Trace.isClosed]

/-- Closes a connection some number of times. -/
def closeTimes (connection : Connection) : Nat → Act Unit
  | 0 => pure ()
  | again + 1 => do
      connection.close
      connection.closeTimes again

/-- Only the first time counts. -/
theorem closeTimes_succ (connection : Connection) (again : Nat) (w : World) (t : Trace) :
    connection.closeTimes (again + 1) w t = connection.close w t := by
  induction again generalizing t with
  | zero => exact (Act.bind_ok (close_ok connection w t)).trans (close_ok connection w t).symm
  | succ again ih =>
      rw [closeTimes, Act.bind_ok (close_ok connection w t), ih,
        close_closed (isClosed_close connection w t), ← close_ok]

end Connection

/-! ## Acts that keep connections -/

/-- From one trace to a later one, connections are kept: those made before are left alone,
but for some on which servers have heard more, and those made since have been closed once
if dialing succeeds. -/
structure Kept (dials : Prop) (own : List Nat) (t t' : Trace) : Prop where
  numbered : t'.Numbered
  grows : t.connectionCount ≤ t'.connectionCount
  others : ∀ n < t.connectionCount, n ∉ own → t'.history n = t.history n
  heard : ∀ n ∈ own, ∃ said : List Seen, t'.history n = t.history n ++ said.map .seen
  closed : dials → ∀ n, t.connectionCount ≤ n → n < t'.connectionCount →
    ClosedOnce (t'.history n)

variable {dials : Prop} {own : List Nat} {t t₁ t₂ : Trace}

theorem Kept.trans (made : ∀ n ∈ own, n < t.connectionCount) (one : Kept dials own t t₁)
    (two : Kept dials own t₁ t₂) : Kept dials own t t₂ where
  numbered := two.numbered
  grows := Nat.le_trans one.grows two.grows
  others n old other := by
    rw [two.others n (Nat.lt_of_lt_of_le old one.grows) other, one.others n old other]
  heard n mem := by
    obtain ⟨said, first⟩ := one.heard n mem
    obtain ⟨more, second⟩ := two.heard n mem
    exact ⟨said ++ more, by rw [second, first, List.map_append, List.append_assoc]⟩
  closed succeeds n new old := by
    by_cases early : n < t₁.connectionCount
    · have other : n ∉ own := fun mem => Nat.not_le_of_lt (made n mem) new
      rw [two.others n early other]
      exact one.closed succeeds n new early
    · exact two.closed succeeds n (Nat.le_of_not_lt early) old

/-- Servers that hear things make no connection. -/
theorem Kept.of_heard {k : Nat} {said : List Seen} (numbered : t.Numbered)
    (made : ∀ n ∈ own, n < t.connectionCount) (mem : k ∈ own)
    (log : t₁.connections = t.connections ++ heardOn k said) : Kept dials own t t₁ := by
  have count : t₁.connectionCount = t.connectionCount := by
    rw [Trace.connectionCount_append log, connected_heardOn, Nat.add_zero]
  have history (n : Nat) : t₁.history n =
      t.history n ++ if k = n then said.map .seen else [] := by
    rw [Trace.history_append log, filter_heardOn]
  refine ⟨.append log numbered fun entry hearing => ?_, Nat.le_of_eq count.symm,
    fun n _ other => ?_, fun n _ => ?_, fun _ n new old => absurd old (by omega)⟩
  · rw [number_heardOn hearing, count]
    exact made k mem
  · have ne : k ≠ n := fun same => other (same ▸ mem)
    rw [history, if_neg ne, List.append_nil]
  · rw [history]
    by_cases same : k = n
    · exact ⟨said, by rw [if_pos same]⟩
    · exact ⟨[], by rw [if_neg same, List.map_nil]⟩

theorem Kept.of_eq (numbered : t.Numbered) (same : t₁.connections = t.connections) :
    Kept dials own t t₁ := by
  have history (n : Nat) : t₁.history n = t.history n := by rw [Trace.history, same, Trace.history]
  have count : t₁.connectionCount = t.connectionCount := by
    rw [Trace.connectionCount, same, Trace.connectionCount]
  refine ⟨fun entry happened => ?_, Nat.le_of_eq count.symm, fun n _ _ => history n,
    fun n _ => ⟨[], by rw [history, List.map_nil, List.append_nil]⟩,
    fun _ n new old => absurd old (by omega)⟩
  rw [count]
  exact numbered entry (same ▸ happened)

/-- From one trace to a later one, the next connection has been made and is still open. -/
structure Greeted (t t₁ : Trace) : Prop where
  numbered : t₁.Numbered
  count : t₁.connectionCount = t.connectionCount + 1
  others : ∀ n < t.connectionCount, t₁.history n = t.history n
  opened : ∃ said : List Seen, t₁.history t.connectionCount = .connected :: said.map .seen

theorem Greeted.of_log {users : List String} (numbered : t.Numbered)
    (log : t₁.connections = t.connections ++ greeting t.connectionCount users) :
    Greeted t t₁ := by
  rw [greeting] at log
  have count : t₁.connectionCount = t.connectionCount + 1 := by
    rw [Trace.connectionCount_append log, List.filter_cons_of_pos (by simp), List.length_cons,
      connected_heardOn]
  refine ⟨.append log numbered fun entry since => ?_, count, fun n old => ?_,
    users.map .user, ?_⟩
  · have named : entry.1 = t.connectionCount := by
      rcases List.mem_cons.mp since with rfl | hearing
      · rfl
      · exact number_heardOn hearing
    rw [named, count]
    exact Nat.lt_succ_self _
  · have ne : t.connectionCount ≠ n := Nat.ne_of_gt old
    rw [Trace.history_append log, List.filter_cons_of_neg (by simpa using ne), filter_heardOn,
      if_neg ne, List.append_nil]
  · rw [Trace.history_append log, numbered.history_eq_nil (Nat.le_refl _),
      List.filter_cons_of_pos (by simp), List.map_cons, filter_heardOn, if_pos rfl,
      List.nil_append]

/-- A new connection that nothing more is done with: dialing has failed. -/
theorem Greeted.kept (greeted : Greeted t t₁) (fails : ¬dials) : Kept dials [] t t₁ where
  numbered := greeted.numbered
  grows := by rw [greeted.count]; exact Nat.le_succ _
  others n old _ := greeted.others n old
  heard := by simp
  closed succeeds := absurd succeeds fails

/-- A new connection is open until it is closed. -/
theorem Greeted.isOpen (greeted : Greeted t t₁) (kept : Kept dials [t.connectionCount] t₁ t₂) :
    ∃ said : List Seen, t₂.history t.connectionCount = .connected :: said.map .seen := by
  obtain ⟨said, opened⟩ := greeted.opened
  obtain ⟨more, heard⟩ := kept.heard _ (List.mem_singleton_self _)
  exact ⟨said ++ more, by rw [heard, opened, List.map_append, List.cons_append]⟩

/-- Closing a new connection that some work has kept open. -/
theorem Greeted.close {connection : Connection} (greeted : Greeted t t₁)
    (kept : Kept dials [t.connectionCount] t₁ t₂)
    (named : connection.number = t.connectionCount) :
    Kept dials [] t (connection.close w t₂).2 := by
  obtain ⟨said, lived⟩ := greeted.isOpen kept
  have isOpen : Event.closed ∉ t₂.history connection.number := by
    rw [named, lived]
    simp
  have made := kept.grows
  rw [greeted.count] at made
  rw [Connection.close_open isOpen, named]
  generalize closing : ({ t₂ with
    connections := t₂.connections ++ [(t.connectionCount, .closed)] } : Trace) = t₃
  have log : t₃.connections = t₂.connections ++ [(t.connectionCount, .closed)] := by
    rw [← closing]
  have count : t₃.connectionCount = t₂.connectionCount := Trace.connectionCount_append log
  have history (n : Nat) (other : t.connectionCount ≠ n) : t₃.history n = t₂.history n := by
    rw [Trace.history_append log, List.filter_cons_of_neg (by simpa using other)]
    exact List.append_nil _
  show Kept dials [] t t₃
  refine ⟨.append log kept.numbered fun entry since => ?_, by omega, fun n old _ => ?_, by simp,
    fun succeeds n new old => ?_⟩
  · rw [List.mem_singleton.mp since, count]
    exact made
  · have other : n ∉ [t.connectionCount] := by simpa using Nat.ne_of_lt old
    rw [history n (Nat.ne_of_gt old), kept.others n (by rw [greeted.count]; omega) other,
      greeted.others n old]
  · by_cases same : t.connectionCount = n
    · subst same
      refine ⟨said, ?_⟩
      rw [Trace.history_append log, lived, List.filter_cons_of_pos (by simp)]
      rfl
    · rw [history n same]
      exact kept.closed succeeds n (by rw [greeted.count]; omega) (count ▸ old)

end Ssh

namespace Act

variable {α β : Type} {w : World} {dials : Prop} {own : List Nat}

/-- An act keeps connections, some of which it may work on. -/
def Keeps (act : Act α) (w : World) (dials : Prop) (own : List Nat) : Prop :=
  ∀ t : Trace, t.Numbered → (∀ n ∈ own, n < t.connectionCount) → Ssh.Kept dials own t (act w t).2

theorem SpeaksOn.keeps {act : Act α} {k : Nat} (speaks : act.SpeaksOn w k) :
    act.Keeps w dials [k] := fun t numbered made =>
  let ⟨_, log⟩ := speaks t
  .of_heard numbered made (List.mem_singleton_self k) log

theorem keeps_of_quiet {act : Act α} (quiet : ∀ t, (act w t).2.connections = t.connections) :
    act.Keeps w dials own := fun t numbered _ => .of_eq numbered (quiet t)

theorem Obeys.keeps {act : Act α} {gives : α → Prop} (obeys : act.Obeys w .offline gives) :
    act.Keeps w dials own := keeps_of_quiet obeys.quiet

theorem Keeps.bind {act : Act α} {next : α → Act β} (first : act.Keeps w dials own)
    (second : ∀ a, (next a).Keeps w dials own) : (act >>= next).Keeps w dials own := by
  intro t numbered made
  have kept := first t numbered made
  rw [bind_apply]
  rcases ended : act w t with ⟨_ | a, t'⟩
  · rwa [ended] at kept
  · rw [ended] at kept
    have made' : ∀ n ∈ own, n < t'.connectionCount :=
      fun n mem => Nat.lt_of_lt_of_le (made n mem) kept.grows
    exact kept.trans made (second a t' kept.numbered made')

theorem Keeps.map {act : Act α} {f : α → β} (keeps : act.Keeps w dials own) :
    (f <$> act).Keeps w dials own := by
  rw [map_eq_pure_bind]
  exact keeps.bind fun _ => keeps_of_quiet fun _ => rfl

/-- An act that leaves all connections alone may be given some to work on. -/
theorem Keeps.weaken {act : Act α} (keeps : act.Keeps w dials []) : act.Keeps w dials own := by
  intro t numbered made
  have kept := keeps t numbered (by simp)
  refine ⟨kept.numbered, kept.grows, fun n old _ => kept.others n old (by simp),
    fun n mem => ⟨[], ?_⟩, kept.closed⟩
  rw [kept.others n (made n mem) (by simp), List.map_nil, List.append_nil]

end Act

/-! ## Work on a host -/

section Remote

variable {c : Context} (remote : c.kind = .remote)

include remote

theorem Session.runCommand_remote (command : Shell.Command) : runCommand c command =
    Ssh.onHost c fun connection => connection.run (Shell.remoteLine c command) := by
  rw [runCommand, remote]

theorem Context.readText_remote (path : String) :
    c.readText path = Ssh.onHost c fun connection => connection.readText path := by
  rw [readText, remote]

theorem Docker.withDaemon_remote {α : Type} (work : Link → Act α) : withDaemon c work =
    Ssh.onHost c fun connection =>
      connectThrough connection (socketPath c.dockerSocket) >>= fun client =>
        work ⟨client, some connection⟩ := by
  rw [withDaemon, remote]

end Remote

section Hosts

variable {c : Context} {w : World} {α : Type}

namespace Ssh

/-- Work on a host keeps connections if what is done there does. -/
theorem onHost_keeps {work : Connection → Act α}
    (keeps : ∀ connection, (work connection).Keeps w (Dials c w) [connection.number]) :
    (onHost c work).Keeps w (Dials c w) [] := by
  intro t numbered _
  rcases dial_cases c w with ⟨f, fails⟩ | ⟨target, server, succeeds⟩
  · obtain ⟨failed, log⟩ := fails t
    have never : ¬Dials c w := fun dials => by
      obtain ⟨connection, ok⟩ := dials t
      rw [failed] at ok
      cases ok
    rw [onHost, Act.bind_error (Prod.ext failed rfl)]
    rcases log with quiet | ⟨users, log⟩
    · exact .of_eq numbered quiet
    · exact (Greeted.of_log numbered log).kept never
  · -- what is done now is done on the next connection, which is open until it is closed
    obtain ⟨ok, log⟩ := succeeds t
    have greeted : Greeted t (dial c w t).2 := .of_log numbered log
    rw [onHost, Act.bind_ok (Prod.ext ok rfl), Act.ensuring]
    refine greeted.close (keeps ⟨_, target, server⟩ _ greeted.numbered fun n mem => ?_) rfl
    rw [List.mem_singleton.mp mem, greeted.count]
    exact Nat.lt_succ_self _

end Ssh

theorem Session.runCommand_keeps (command : Shell.Command) :
    (runCommand c command).Keeps w (Ssh.Dials c w) [] := by
  cases kind : c.kind with
  | here =>
      exact (runCommand_obeys (by simp [kind]) trivial).keeps
  | remote =>
      rw [runCommand_remote kind]
      exact Ssh.onHost_keeps fun _ => (Connection.run_speaks _).keeps

theorem Context.readText_keeps (path : String) :
    (c.readText path).Keeps w (Ssh.Dials c w) [] := by
  cases kind : c.kind with
  | here => exact (readText_obeys (by simp [kind])).keeps
  | remote =>
      rw [readText_remote kind]
      exact Ssh.onHost_keeps fun _ => (Connection.readText_speaks _).keeps

theorem Docker.withDaemon_keeps {work : Link → Act α}
    (keeps : ∀ l, (work l).Keeps w (Ssh.Dials c w) []) :
    (withDaemon c work).Keeps w (Ssh.Dials c w) [] := by
  cases kind : c.kind with
  | here =>
      rw [withDaemon, kind]
      refine Act.obeys_examine.keeps.bind fun socket => ?_
      exact (connectSocket_obeys Permit.offline_asks).keeps.bind fun client => keeps _
  | remote =>
      rw [withDaemon_remote kind]
      exact Ssh.onHost_keeps fun connection =>
        (connectThrough_speaks _).keeps.bind fun client => (keeps _).weaken

end Hosts

/-! ## Commands -/

namespace Program

open CommandLine (Command)

variable {c : Context} {w : World}

/-- A container is looked up without a word on connections. -/
theorem findContainer_offline {client : Docker.Client} {service : String} :
    (Compose.findContainer client c service).Obeys w .offline fun _ => True :=
  Compose.findContainer_obeys Permit.offline_asks fun _ _ _ => trivial

theorem secret_keeps {client : Docker.Client} {container name : String} :
    (Compose.secret client c container name).Keeps w (Ssh.Dials c w) [] := by
  refine (Docker.Client.inspect_obeys Permit.offline_asks trivial).keeps.bind fun inspection => ?_
  split
  · exact Act.obeys_look.keeps.bind fun _ => Context.readText_keeps _
  · exact Act.obeys_ofResult.keeps

theorem perform_keeps (command : Command) :
    (perform c command).Keeps w (Ssh.Dials c w) [] := by
  cases command with
  | compose args =>
      refine Act.Keeps.bind ?_ fun _ => Act.keeps_of_quiet fun _ => rfl
      refine Act.obeys_ofResult.keeps.bind fun args => ?_
      have run : Act.Keeps (do
          let _ ← Session.runCommand c ⟨"docker", args⟩) w (Ssh.Dials c w) [] :=
        (Session.runCommand_keeps _).map
      split
      · exact Act.obeys_examine.keeps.bind fun _ => run
      · exact run
  | exec r =>
      refine Act.Keeps.map (Docker.withDaemon_keeps fun l => ?_)
      refine findContainer_offline.keeps.bind fun container => ?_
      refine Act.obeys_look.keeps.bind fun terminal => ?_
      simp only []
      split
      · exact (Exec.runInteractive_obeys Permit.offline_asks trivial).keeps
      · exact (Exec.runPlain_obeys Permit.offline_asks trivial).keeps
  | portForward specs =>
      refine Act.Keeps.bind ?_ fun _ => Act.keeps_of_quiet fun _ => rfl
      refine Act.obeys_ofResult.keeps.bind fun parsed => ?_
      refine Docker.withDaemon_keeps fun l => ?_
      have settingUp : ∀ spec ∈ parsed,
          (Forward.setUp c l.client spec).Obeys w .offline fun _ => True :=
        fun spec _ => Forward.setUp_obeys Permit.offline_asks fun _ _ _ => trivial
      refine (Act.Obeys.mapM settingUp).keeps.bind fun routes => ?_
      split
      · exact Act.keeps_of_quiet fun _ => rfl
      · exact Forward.serve_obeys.keeps
  | secret service name =>
      refine Act.Keeps.bind ?_ fun _ => Act.keeps_of_quiet fun _ => rfl
      refine Act.Keeps.bind ?_ fun _ => Act.obeys_printLine.keeps
      exact Docker.withDaemon_keeps fun l =>
        findContainer_offline.keeps.bind fun container => secret_keeps
  | env service name =>
      refine Act.Keeps.bind ?_ fun _ => Act.keeps_of_quiet fun _ => rfl
      refine Act.Keeps.bind ?_ fun _ => Act.obeys_printLine.keeps
      exact Docker.withDaemon_keeps fun l => findContainer_offline.keeps.bind fun container =>
        (Compose.containerVariable_obeys Permit.offline_asks trivial).keeps
  | make args =>
      refine Act.Keeps.bind ?_ fun _ => Act.keeps_of_quiet fun _ => rfl
      exact (Session.runCommand_keeps _).map
  | dbUri =>
      refine Act.Keeps.bind ?_ fun _ => Act.keeps_of_quiet fun _ => rfl
      refine Act.Keeps.bind ?_ fun uris => ?_
      · refine Docker.withDaemon_keeps fun l => findContainer_offline.keeps.bind fun container => ?_
        exact secret_keeps.bind fun _ => Act.keeps_of_quiet fun _ => rfl
      · refine Act.obeys_printLine.keeps.bind fun _ => ?_
        split
        · exact Act.obeys_look.keeps.bind fun _ => Act.obeys_printLine.keeps
        · exact Act.keeps_of_quiet fun _ => rfl
  | configShow => exact showContext_obeys.keeps.bind fun _ => Act.keeps_of_quiet fun _ => rfl

end Program

/-! ## Results -/

/-- An act comes to a result whatever has happened before, and leaves a view of the trace as it
is. -/
def Act.ComesTo {α β : Type} (act : Act α) (view : Trace → β) (w : World)
    (r : Except Failure α) : Prop :=
  ∀ t, (act w t).1 = r ∧ view (act w t).2 = view t

section Results

variable {α β γ : Type} {act : Act α} {next : α → Act β} {view : Trace → γ} {w : World}
  {t : Trace}

/-- What follows an act that has come to a result sees the same view. -/
theorem Act.ComesTo.bind_result {r : Except Failure α} {s : α → Except Failure β}
    (comes : act.ComesTo view w r)
    (rest : ∀ a t', view t' = view t → (next a w t').1 = s a) :
    ((act >>= next) w t).1 = r >>= s := by
  obtain ⟨result, same⟩ := comes t
  rw [bind_apply, ← result]
  rcases ended : act w t with ⟨_ | a, t'⟩
  · rfl
  · rw [ended] at same
    exact rest a t' same

theorem Act.ComesTo.bind_ok {a : α} {r : Except Failure β}
    (comes : act.ComesTo view w (.ok a))
    (rest : ∀ t', view t' = view t → (next a w t').1 = r) : ((act >>= next) w t).1 = r := by
  obtain ⟨result, same⟩ := comes t
  rw [Act.bind_ok (Prod.ext result rfl)]
  exact rest _ same

theorem Act.look_bind {seen : World → α} : (Act.look seen >>= next) w t = next (seen w) w t := rfl

end Results

namespace Ssh

namespace Connection

variable {connection : Connection} {w : World}

/-- Whether a connection lasts up to a point. -/
def lasts (connection : Connection) (p : Point) (lost : SshFailure) : Except Failure Unit :=
  if connection.server.lostAt.contains p then .error (.ssh lost) else .ok ()

/-- Whether a session is opened. -/
def admits (connection : Connection) : Except Failure Unit := do
  connection.lasts .session (.session connection.name .disconnected)
  if connection.grants .session then .ok ()
  else .error (.ssh (.session connection.name prohibited))

/-- Whether a session gets as far as a command. -/
def readied (connection : Connection) : Except Failure Unit := do
  connection.admits
  connection.lasts .pty (.pty .sending)
  connection.lasts .command (.command .sending)

/-- What running a command line comes to: the failure of the first step that fails, or what
the session gives. -/
def runOutcome (connection : Connection) (w : World) (sink : Output.Sink) (line : String) :
    Except Failure String := do
  connection.readied
  (Session.drive w.terminal line
    ({ sink, allowance := connection.server.sends }, connection.timeline w.stdin)).2.2

/-- What reading a file comes to: the failure of the first step that fails, or the text. -/
def readOutcome (connection : Connection) (path : String) : Except Failure String := do
  connection.admits
  connection.lasts .subsystem (.subsystem .sending)
  connection.lasts .fileTransfer (.fileTransfer (.stated "Timeout"))
  connection.fileText path

section Steps

variable {β : Type} (view : Trace → β)

theorem reach_comesTo (p : Point) (lost : SshFailure) :
    (connection.reach p lost).ComesTo view w (connection.lasts p lost) := by
  intro t
  rw [reach, lasts]
  split <;> exact ⟨rfl, rfl⟩

variable {view}

/-- A view does not show that a server hears something. -/
def Overlooks (view : Trace → β) (s : Seen) : Prop :=
  ∀ (t : Trace) (n : Nat), view { t with connections := t.connections ++ [(n, .seen s)] } = view t

theorem sees_comesTo {s : Seen} (overlooks : Overlooks view s) :
    (connection.sees s).ComesTo view w (.ok ()) := fun t => ⟨rfl, overlooks t _⟩

theorem openSession_comesTo (overlooks : Overlooks view .session) :
    connection.openSession.ComesTo view w connection.admits := by
  intro t
  rw [openSession, Act.bind_apply, reach, admits, lasts]
  by_cases lost : connection.server.lostAt.contains .session = true
  · rw [if_pos lost, if_pos lost]
    exact ⟨rfl, rfl⟩
  · rw [if_neg lost, if_neg lost]
    cases connection.grants .session with
    | false => exact ⟨rfl, rfl⟩
    | true => exact ⟨rfl, overlooks t _⟩

theorem request_comesTo (r : Refusal) {seen : Seen} (overlooks : Overlooks view seen) :
    (connection.request r seen).ComesTo view w (.ok ()) := by
  intro t
  rw [request]
  split
  · exact ⟨rfl, overlooks t _⟩
  · exact ⟨rfl, rfl⟩

end Steps

theorem run_result (line : String) (t : Trace) :
    (connection.run line w t).1 = connection.runOutcome w t.stdout line := by
  have overlooks (s : Seen) : Overlooks Trace.stdout s := fun _ _ => rfl
  rw [runOutcome, readied]
  simp only [bind_assoc]
  refine (openSession_comesTo (overlooks _)).bind_result fun _ t₁ same₁ => ?_
  rw [Act.look_bind]
  refine (reach_comesTo Trace.stdout _ _).bind_result fun _ t₂ same₂ => ?_
  refine (request_comesTo _ (overlooks _)).bind_ok fun t₃ same₃ => ?_
  refine (reach_comesTo Trace.stdout _ _).bind_result fun _ t₄ same₄ => ?_
  refine (request_comesTo _ (overlooks _)).bind_ok fun t₅ same₅ => ?_
  rw [← same₁, ← same₂, ← same₃, ← same₄, ← same₅]
  rfl

theorem readText_result (path : String) (t : Trace) :
    (connection.readText path w t).1 = connection.readOutcome path := by
  have overlooks (s : Seen) : Overlooks Trace.stdout s := fun _ _ => rfl
  refine (openSession_comesTo (overlooks _)).bind_result fun _ _ _ => ?_
  refine (reach_comesTo Trace.stdout _ _).bind_result fun _ _ _ => ?_
  refine (sees_comesTo (overlooks _)).bind_ok fun _ _ => ?_
  refine (reach_comesTo Trace.stdout _ _).bind_result fun _ _ _ => ?_
  exact (sees_comesTo (overlooks _)).bind_ok fun _ _ => rfl

end Connection

variable {c : Context} {w : World} {t t₁ : Trace} {connection : Connection} {α : Type}

/-- What is done on a host that has been dialed is what the work comes to, and then the
closing. -/
theorem onHost_apply (dialed : dial c w t = (.ok connection, t₁)) (work : Connection → Act α) :
    onHost c work w t =
      ((work connection w t₁).1, (connection.close w (work connection w t₁).2).2) := by
  rw [onHost, Act.bind_ok dialed, Act.ensuring]

/-- Between dialing and closing, servers only hear things. -/
theorem onHost_lived (numbered : t.Numbered) (dialed : dial c w t = (.ok connection, t₁))
    {work : Connection → Act α} {more : List Seen}
    (heard : (work connection w t₁).2.connections =
      t₁.connections ++ heardOn connection.number more) :
    ∃ said, (onHost c work w t).2.connections =
      t.connections ++ life connection.number said := by
  obtain ⟨dials, named, user, log⟩ := dials_of_ok dialed
  have greeted : Greeted t t₁ := .of_log numbered log
  have made : ∀ n ∈ [connection.number], n < t₁.connectionCount := by
    simp [named, greeted.count]
  have kept : Kept (Dials c w) [connection.number] t₁ (work connection w t₁).2 :=
    .of_heard greeted.numbered made (List.mem_singleton_self _) heard
  rw [named] at kept
  obtain ⟨hearing, lived⟩ := greeted.isOpen kept
  have isOpen : Event.closed ∉ (work connection w t₁).2.history connection.number := by
    rw [named, lived]
    simp
  refine ⟨.user user :: more, ?_⟩
  rw [onHost_apply dialed, Connection.close_open isOpen]
  simp [heard, log, named, life, greeting, heardOn]

/-- Work that closes the connection itself, however often, comes to the same. -/
theorem onHost_closing (dialed : dial c w t = (.ok connection, t₁)) (work : Connection → Act α)
    (times : Nat) :
    onHost c (fun connection => do
      let a ← work connection
      connection.closeTimes times
      pure a) w t = onHost c work w t := by
  rw [onHost_apply dialed, onHost_apply dialed]
  rcases ended : work connection w t₁ with ⟨f | a, t₂⟩
  · rw [Act.bind_error ended]
  · rw [Act.bind_ok ended]
    cases times with
    | zero => rfl
    | succ times =>
        have closes := (connection.closeTimes_succ times w t₂).trans (connection.close_ok w t₂)
        rw [Act.bind_ok closes, Act.pure_apply,
          Connection.close_closed (connection.isClosed_close w t₂)]

/-! ## The guarantee -/

/-- Where dialing fails, nothing is done. -/
theorem onHost_failed {f : Failure} (fails : (dial c w t).1 = .error f)
    (work : Connection → Act α) : onHost c work w t = (.error f, (dial c w t).2) := by
  rw [onHost, Act.bind_error (Prod.ext fails rfl)]

section Remote

variable (remote : c.kind = .remote)

include remote

section Dialed

variable (numbered : t.Numbered) (dialed : dial c w t = (.ok connection, t₁))

include numbered dialed

theorem runCommand_lived (command : Shell.Command) :
    (∃ said, (Session.runCommand c command w t).2.connections =
      t.connections ++ life connection.number said) ∧
    (Session.runCommand c command w t).1 =
      connection.runOutcome w t₁.stdout (Shell.remoteLine c command) := by
  rw [Session.runCommand_remote remote]
  obtain ⟨more, heard⟩ := Connection.run_speaks (Shell.remoteLine c command) t₁
  refine ⟨onHost_lived numbered dialed heard, ?_⟩
  rw [onHost_apply dialed]
  exact Connection.run_result _ t₁

theorem readText_lived (path : String) :
    (∃ said, (c.readText path w t).2.connections =
      t.connections ++ life connection.number said) ∧
    (c.readText path w t).1 = connection.readOutcome path := by
  rw [Context.readText_remote remote]
  obtain ⟨more, heard⟩ := Connection.readText_speaks path t₁
  refine ⟨onHost_lived numbered dialed heard, ?_⟩
  rw [onHost_apply dialed]
  exact Connection.readText_result path t₁

/-- A daemon behind a host that cannot be connected to: the work is not begun. -/
theorem withDaemon_severed {f : Failure} (fails : (Docker.connectThrough connection
    (Docker.socketPath c.dockerSocket) w t₁).1 = .error f) (work : Docker.Link → Act α) :
    (∃ said, (Docker.withDaemon c work w t).2.connections =
      t.connections ++ life connection.number said) ∧
    (Docker.withDaemon c work w t).1 = .error f := by
  let connecting := Docker.connectThrough connection (Docker.socketPath c.dockerSocket)
  have severed : (connecting >>= fun client => work ⟨client, some connection⟩) w t₁ =
      (.error f, (connecting w t₁).2) := Act.bind_error (Prod.ext fails rfl)
  obtain ⟨more, heard⟩ : ∃ more, ((connecting >>= fun client =>
      work ⟨client, some connection⟩) w t₁).2.connections =
        t₁.connections ++ heardOn connection.number more := by
    rw [severed]
    exact Docker.connectThrough_speaks _ t₁
  rw [Docker.withDaemon_remote remote]
  refine ⟨onHost_lived numbered dialed heard, ?_⟩
  rw [onHost_apply dialed]
  exact congrArg Prod.fst severed

end Dialed

theorem withDaemon_reached {client : Docker.Client}
    (dialed : dial c w t = (.ok connection, t₁))
    (connects : (Docker.connectThrough connection (Docker.socketPath c.dockerSocket) w t₁).1 =
      .ok client) (work : Docker.Link → Act α) :
    (Docker.withDaemon c work w t).1 = (work ⟨client, some connection⟩ w
      (Docker.connectThrough connection (Docker.socketPath c.dockerSocket) w t₁).2).1 := by
  rw [Docker.withDaemon_remote remote, onHost_apply dialed, Act.bind_ok (Prod.ext connects rfl)]

end Remote

/-- Each connection that an act has made where dialing succeeds has been closed once, and
closing it again does nothing. -/
theorem Kept.closed_once {t t' : Trace} (kept : Kept (Dials c w) [] t t') (dials : Dials c w)
    {n : Nat} (new : t.connectionCount ≤ n) (old : n < t'.connectionCount) :
    ClosedOnce (t'.history n) ∧ t'.connections.count (n, .closed) = 1 ∧
      ∀ again : Connection, again.number = n → again.close w t' = (.ok (), t') := by
  have closed := kept.closed dials n new old
  refine ⟨closed, ?_, fun again same => Connection.close_closed ?_⟩
  · rw [Trace.count_history, closed.count_eq_one]
  · obtain ⟨said, ending⟩ := closed
    rw [same, Trace.isClosed_iff, ending]
    simp

/-- The museum's key as a list of known hosts gives it. -/
def museumListed : String :=
  "museum.example ssh-ed25519 " ++
    "AAAAC3NzaC1lZDI1NTE5AAAAIAcHBwcHBwcHBwcHBwcHBwcHBwcHBwcHBwcHBwcHBwcH\n"

/-- A world in which the museum is known, and the connection to it is lost at some points. -/
def familiar (lostAt : List Point) : World where
  environment := ⟨[("HOME", "/root")]⟩
  files :=
    { entries := [(["root", "id"], .file smallKey false),
        (["root", "known_hosts"], .file (Text.Utf8.encode museumListed) false)],
      workDirectory := [] }
  network := fun _ _ => .ok { hostKey := .ed25519 (List.replicate 32 7), lostAt }

end Ssh

end ComposeSite
