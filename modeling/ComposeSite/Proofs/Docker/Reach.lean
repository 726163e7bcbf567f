/-
# ComposeSite.Proofs.Docker.Reach -- how far work with a daemon gets

Whatever is to be done with the daemon of a context, what happens before is the same: either
nothing can be done at all, or the work starts on one link, when the daemon has been asked for
its version and for nothing else (`withDaemon_cases`).  Reaching the daemon and taking leave of
it only talks: of the trace, nothing but requests, connections and read keys are touched
(`Trace.Beside`).
-/
import ComposeSite.Proofs.Program.Conduct

set_option autoImplicit false

namespace ComposeSite

variable {w : World} {c : Context} {t : Trace}

/-! ## Acts without requests -/

/-- Daemons are asked for nothing. -/
def Permit.silent : Permit := { request := fun _ => False }

theorem Permit.silent_allowsHosts : Permit.silent.AllowsHosts :=
  ⟨fun _ => trivial, fun _ => trivial⟩

namespace Act

variable {α β : Type}

theorem Obeys.requests_eq {act : Act α} {gives : α → Prop} (obeys : act.Obeys w .silent gives)
    (t : Trace) : (act w t).2.requests = t.requests :=
  (obeys t).1.requests.eq_of_forbidden

/-- What is asked for is asked for by the first of two acts if the second is silent. -/
theorem bind_requests {act : Act α} {next : α → Act β}
    (silent : ∀ a, (next a).Obeys w .silent fun _ => True) :
    ((act >>= next) w t).2.requests = (act w t).2.requests := by
  rw [bind_apply]
  rcases act w t with ⟨_ | a, after⟩
  · rfl
  · exact (silent a).requests_eq after

end Act

/-! ## Acts that only talk -/

/-- A trace differs from another one in nothing but requests that were sent, connections and read
keys. -/
def Trace.Beside (before after : Trace) : Prop :=
  ∃ requests, after = { before.asked requests with
    connections := after.connections, keysRead := after.keysRead }

namespace Trace.Beside

theorem of_silent {before after : Trace} (same : after = { before with
    connections := after.connections, keysRead := after.keysRead }) : before.Beside after :=
  ⟨[], by simpa [Trace.asked] using same⟩

theorem refl (t : Trace) : t.Beside t := of_silent rfl

theorem trans {first second third : Trace} (one : first.Beside second)
    (two : second.Beside third) : first.Beside third := by
  obtain ⟨early, asksFirst⟩ := one
  obtain ⟨late, asksSecond⟩ := two
  refine ⟨early ++ late, ?_⟩
  rw [asksSecond, asksFirst, ← Trace.asked_asked]
  rfl

end Trace.Beside

namespace Act

variable {α β : Type}

/-- In a world, an act asks daemons, acts on connections and reads keys, and does nothing
else. -/
def Talks (act : Act α) (w : World) : Prop := ∀ t : Trace, t.Beside (act w t).2

theorem talks_pure {a : α} : (pure a : Act α).Talks w := fun t => .refl t

theorem talks_fail {f : Failure} : (Act.fail f : Act α).Talks w := fun t => .refl t

theorem talks_ofResult {r : Except Failure α} : (Act.ofResult r).Talks w := fun t => .refl t

theorem talks_look {view : World → α} : (Act.look view).Talks w := fun t => .refl t

theorem talks_examine {view : World → Except Failure α} : (Act.examine view).Talks w :=
  fun t => .refl t

theorem Talks.bind {act : Act α} {next : α → Act β} (first : act.Talks w)
    (second : ∀ a, (next a).Talks w) : (act >>= next).Talks w := by
  intro t
  have talked := first t
  rw [bind_apply]
  rcases ended : act w t with ⟨_ | a, after⟩
  · rw [ended] at talked
    exact talked
  · rw [ended] at talked
    exact talked.trans (second a after)

theorem Talks.blaming {act : Act α} {words : Failure → Failure} (talks : act.Talks w) :
    (act.blaming words).Talks w := talks

theorem Talks.attempt {act : Act α} (talks : act.Talks w) : act.attempt.Talks w := talks

end Act

namespace Ssh

theorem noteEvent_talks {number : Nat} {e : Event} : (noteEvent number e).Talks w :=
  fun _ => .of_silent rfl

theorem Connection.close_talks {connection : Connection} : connection.close.Talks w := by
  intro t
  rw [Connection.close]
  split
  · exact .refl t
  · exact noteEvent_talks t

theorem introduce_talks {number : Nat} {target : Target} {server : Server} :
    (introduce number target server).Talks w := by
  refine Act.talks_examine.bind fun _ => noteEvent_talks.bind fun _ => ?_
  split
  · exact Act.talks_fail
  · exact Act.talks_pure

theorem connect_talks {target : Target} : (connect target).Talks w := by
  have counting : nextNumber.Talks w := fun t => .refl t
  exact Act.talks_examine.bind fun _ => counting.bind fun _ => noteEvent_talks.bind fun _ =>
    introduce_talks

theorem dial_talks : (dial c).Talks w := by
  have reading (target : Target) : (readKey target).Talks w :=
    Act.Talks.bind (fun _ => .of_silent rfl) fun _ => Act.talks_examine
  exact Act.talks_examine.bind fun target => (reading target).bind fun _ =>
    connect_talks.blaming

theorem Connection.openSocket_talks {connection : Connection} {path : String} :
    (connection.openSocket path).Talks w := by
  refine noteEvent_talks.bind fun _ => ?_
  split
  · exact Act.talks_pure
  · exact Act.talks_fail

end Ssh

namespace Docker

/-! ## Connecting -/

theorem askFor_talks {α : Type} {d : Daemon} {r : Request} {operation : DockerOperation}
    {target : String} {reader : Json.Reader α} : (askFor d r operation target reader).Talks w :=
  Act.Talks.bind (fun _ => ⟨[r], rfl⟩) fun _ => Act.talks_ofResult

theorem negotiate_talks {d : Daemon} {socket : String} : (negotiate d socket).Talks w := by
  refine askFor_talks.bind fun stated => ?_
  split
  · exact Act.talks_pure
  · exact Act.talks_fail

theorem connectSocket_talks {socket : String} : (connectSocket socket).Talks w :=
  Act.talks_examine.bind fun _ => negotiate_talks

theorem connectThrough_talks {connection : Ssh.Connection} {path : String} :
    (connectThrough connection path).Talks w := by
  refine Act.talks_look.bind fun _ => Ssh.Connection.openSocket_talks.attempt.bind fun _ => ?_
  split
  · exact negotiate_talks
  · exact Act.talks_fail

theorem askFor_requests {α : Type} (d : Daemon) (r : Request) (operation : DockerOperation)
    (target : String) (reader : Json.Reader α) (w : World) (t : Trace) :
    (askFor d r operation target reader w t).2.requests = t.requests ++ [r] :=
  Act.bind_requests fun _ => Act.obeys_ofResult.weaken fun _ _ => trivial

/-- A daemon that is negotiated with is asked for its version. -/
theorem negotiate_requests (d : Daemon) (socket : String) (w : World) (t : Trace) :
    (negotiate d socket w t).2.requests = t.requests ++ [.version] := by
  refine Eq.trans (Act.bind_requests fun stated => ?_) (askFor_requests ..)
  split
  · exact Act.obeys_pure trivial
  · exact Act.obeys_fail

/-- Everything may be done. -/
theorem allowsAbout_everything : ({} : Permit).AllowsAbout fun _ => True := fun _ _ => trivial

/-- From one trace to another, daemons have been asked for nothing or for their version. -/
def Greets (before after : Trace) : Prop :=
  after.requests = before.requests ∨ after.requests = before.requests ++ [.version]

theorem connectSocket_greets (socket : String) (w : World) (t : Trace) :
    Greets t (connectSocket socket w t).2 := by
  rw [connectSocket, Act.bind_apply]
  split
  · rename_i d _ found
    obtain ⟨-, rfl⟩ := Prod.mk.inj found
    exact .inr (negotiate_requests d socket w t)
  · rename_i found
    obtain ⟨-, rfl⟩ := Prod.mk.inj found
    exact .inl rfl

theorem connectThrough_greets (connection : Ssh.Connection) (path : String) (w : World)
    (t : Trace) : Greets t (connectThrough connection path w t).2 := by
  have opening : ((connection.openSocket path).attempt w t).2.requests = t.requests :=
    (Ssh.Connection.openSocket_obeys Permit.silent_allowsHosts).attempt.requests_eq t
  rw [connectThrough, Act.bind_ok rfl, Act.bind_apply]
  rcases opened : (connection.openSocket path).attempt w t with ⟨f | reached, t'⟩
  · rw [opened] at opening
    exact .inl opening
  · rw [opened] at opening
    cases reached with
    | error f => exact .inl opening
    | ok d =>
        refine .inr ?_
        rw [← opening]
        exact negotiate_requests d _ w t'

theorem connectSocket_ok {socket : String} {client : Client} {after : Trace}
    (connects : connectSocket socket w t = (.ok client, after)) :
    w.daemonAt? socket = some client.daemon ∧ after.requests = t.requests ++ [.version] := by
  have listens := (connectSocket_obeys (w := w) allowsAbout_everything t).2 client
    (congrArg Prod.fst connects)
  refine ⟨listens, ?_⟩
  rw [connectSocket, Act.bind_apply] at connects
  split at connects
  · rename_i d _ found
    obtain ⟨-, rfl⟩ := Prod.mk.inj found
    rw [← negotiate_requests d socket w t, connects]
  · cases connects

theorem connectThrough_ok {connection : Ssh.Connection} {path : String} {client : Client}
    {after : Trace} (connects : connectThrough connection path w t = (.ok client, after)) :
    connection.server.daemons.lookup path = some client.daemon ∧
      after.requests = t.requests ++ [.version] := by
  have everything : ({} : Permit).AllowsHosts := ⟨fun _ => trivial, fun _ => trivial⟩
  have listens := (connectThrough_obeys (w := w) allowsAbout_everything everything t).2 client
    (congrArg Prod.fst connects)
  refine ⟨listens, ?_⟩
  have opening : ((connection.openSocket path).attempt w t).2.requests = t.requests :=
    (Ssh.Connection.openSocket_obeys Permit.silent_allowsHosts).attempt.requests_eq t
  rw [connectThrough, Act.bind_ok rfl, Act.bind_apply] at connects
  rcases opened : (connection.openSocket path).attempt w t with ⟨_ | reached, t'⟩
  · rw [opened] at connects
    cases connects
  · rw [opened] at connects opening
    cases reached with
    | error f => cases connects
    | ok d =>
        rw [← opening, ← negotiate_requests d _ w t']
        exact congrArg (·.2.requests) connects.symm

/-! ## Links -/

/-- Work with the daemon of a context starts on a link, with a trace; after it, leave is taken
of the daemon. -/
structure Reaches (w : World) (c : Context) (t : Trace) (l : Link) (start : Trace) : Prop where
  leads : LeadsTo w c l.client.daemon
  requests : start.requests = t.requests ++ [.version]
  beside : t.Beside start
  result : ∀ {α : Type} (work : Link → Act α), (withDaemon c work w t).1 = (work l w start).1
  asked : ∀ {α : Type} (work : Link → Act α),
    (withDaemon c work w t).2.requests = (work l w start).2.requests
  left : ∀ {α : Type} (work : Link → Act α),
    (work l w start).2.Beside (withDaemon c work w t).2

/-- Either work fails in one way, whatever it is and before it starts, with no more than the
version asked for, or it starts on one link. -/
theorem withDaemon_cases (w : World) (c : Context) (t : Trace) :
    (∃ f after, t.Beside after ∧ Greets t after ∧
        ∀ {α : Type} (work : Link → Act α), withDaemon c work w t = (.error f, after)) ∨
      ∃ l start, Reaches w c t l start := by
  cases kind : c.kind with
  | here =>
      have looking : (Act.examine fun w => resolveLocal w.environment w.files c.dockerSocket) w t =
        (resolveLocal w.environment w.files c.dockerSocket, t) := rfl
      cases alive : resolveLocal w.environment w.files c.dockerSocket with
      | error f =>
          rw [alive] at looking
          refine .inl ⟨f, t, .refl t, .inl rfl, fun work => ?_⟩
          rw [withDaemon, kind]
          exact Act.bind_error looking
      | ok socket =>
          rw [alive] at looking
          have connecting {α : Type} (work : Link → Act α) : withDaemon c work w t =
              (connectSocket socket >>= fun client => work ⟨client, none⟩) w t := by
            rw [withDaemon, kind]
            exact Act.bind_ok looking
          have talked : t.Beside (connectSocket socket w t).2 := connectSocket_talks t
          have greets := connectSocket_greets socket w t
          rcases ended : connectSocket socket w t with ⟨f | client, after⟩
          · rw [ended] at talked greets
            refine .inl ⟨f, after, talked, greets, fun work => ?_⟩
            rw [connecting work, Act.bind_error ended]
          · rw [ended] at talked
            have onLink {α : Type} (work : Link → Act α) :
                withDaemon c work w t = work ⟨client, none⟩ w after := by
              rw [connecting work, Act.bind_ok ended]
            obtain ⟨listens, requests⟩ := connectSocket_ok ended
            refine .inr ⟨⟨client, none⟩, after, .here kind alive listens, requests, talked,
              fun work => ?_, fun work => ?_, fun work => ?_⟩
            · rw [onLink work]
            · rw [onLink work]
            · rw [onLink work]
              exact .refl _
  | remote =>
      have noRequests := (Ssh.dial_obeys (w := w) (c := c) Permit.silent_allowsHosts).requests_eq t
      have leads := (Ssh.dial_obeys (w := w) (c := c) Permit.silent_allowsHosts t).2
      have dialing := Ssh.dial_talks (w := w) (c := c) t
      rcases dialed : Ssh.dial c w t with ⟨f | connection, t'⟩
      · rw [dialed] at noRequests dialing
        refine .inl ⟨f, t', dialing, .inl noRequests, fun work => ?_⟩
        rw [withDaemon, kind]
        exact Act.bind_error dialed
      · rw [dialed] at noRequests leads dialing
        obtain ⟨target, addressed, answers⟩ := leads connection rfl
        -- the connection is closed after the work, which asks for nothing
        have connecting {α : Type} (work : Link → Act α) : withDaemon c work w t =
            ((connectThrough connection (socketPath c.dockerSocket) >>= fun client =>
              work ⟨client, some connection⟩).ensuring connection.close) w t' := by
          rw [withDaemon, kind]
          exact Act.bind_ok dialed
        have closing (after : Trace) : (connection.close w after).2.requests = after.requests :=
          (Ssh.Connection.close_obeys Permit.silent_allowsHosts).requests_eq after
        have talked : t.Beside (connectThrough connection (socketPath c.dockerSocket) w t').2 :=
          dialing.trans (connectThrough_talks t')
        have greets := connectThrough_greets connection (socketPath c.dockerSocket) w t'
        rw [Greets, noRequests] at greets
        rcases ended : connectThrough connection (socketPath c.dockerSocket) w t' with
          ⟨f | client, after⟩
        · rw [ended, ← closing] at greets
          rw [ended] at talked
          refine .inl ⟨f, (connection.close w after).2,
            talked.trans (Ssh.Connection.close_talks after), greets, fun work => ?_⟩
          rw [connecting work, Act.ensuring, Act.bind_error ended]
        · rw [ended] at talked
          have onLink {α : Type} (work : Link → Act α) : withDaemon c work w t =
              ((work ⟨client, some connection⟩ w after).1,
                (connection.close w (work ⟨client, some connection⟩ w after).2).2) := by
            rw [connecting work, Act.ensuring, Act.bind_ok ended]
          obtain ⟨listens, requests⟩ := connectThrough_ok ended
          refine .inr ⟨⟨client, some connection⟩, after,
            .remote kind addressed answers listens, by rw [requests, noRequests], talked,
            fun work => ?_, fun work => ?_, fun work => ?_⟩
          · rw [onLink work]
          · rw [onLink work, closing]
          · rw [onLink work]
            exact Ssh.Connection.close_talks _

end Docker

end ComposeSite
