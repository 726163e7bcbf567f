/-
# ComposeSite.Proofs.Forward.SetUp -- forwarding is set up for all specs or for none

All specs are read before a daemon is asked for anything.  Then each spec is set up, in
order: its service's container is looked up, then the container's address on the project's
network, then the local port is bound (`SetsUp`).  The first of these steps that fails ends
everything (`Stops`): what comes after it is neither asked for nor bound, and nothing is
forwarded.

Ports are bound one by one, so that those bound for earlier specs are taken for later ones;
this is what an induction over the specs has to carry along (`mapM_setUp_cases`).
-/
import ComposeSite.Proofs.Compose.Lookup
import ComposeSite.Proofs.Forward.Spec
import ComposeSite.Proofs.Program.Targets

set_option autoImplicit false

namespace ComposeSite

open Compose (address? firstName? labelled serviceLabels)
open Docker (Daemon Inspection Link Request Summary withDaemon)
open Output (Style)

namespace Trace.Beside

variable {before after : Trace}

theorem boundPorts (beside : before.Beside after) : after.boundPorts = before.boundPorts := by
  obtain ⟨_, same⟩ := beside
  rw [same]
  rfl

theorem stdout (beside : before.Beside after) : after.stdout = before.stdout := by
  obtain ⟨_, same⟩ := beside
  rw [same]
  rfl

end Trace.Beside

/-- Some requests are sent and some ports are bound. -/
def Trace.prepared (t : Trace) (requests : List Request) (bound : List UInt16) : Trace :=
  { t.asked requests with boundPorts := t.boundPorts ++ bound }

theorem Trace.prepared_boundPorts (t : Trace) (requests : List Request) (bound : List UInt16) :
    (t.prepared requests bound).boundPorts = t.boundPorts ++ bound := rfl

theorem Trace.prepared_prepared (t : Trace) (early late : List Request)
    (bound later : List UInt16) :
    (t.prepared early bound).prepared late later = t.prepared (early ++ late) (bound ++ later) := by
  simp [prepared, asked]

theorem Trace.prepared_unbound (t : Trace) (requests : List Request) :
    t.prepared requests [] = t.asked requests := by
  simp [prepared, asked]

namespace Forward

variable {w : World} {t : Trace} {c : Context} {d : Daemon} {client : Docker.Client}
  {taken : List UInt16} {spec : Spec} {specs : List Spec}

/-! ## Ports -/

/-- Binding a port gives a port that was not taken: the one that was asked for, or one of those
that are given out where any will do. -/
structure Gives (taken : List UInt16) (asked got : UInt16) : Prop where
  free : got ∉ taken
  same : asked ≠ 0 → got = asked
  anyOf : asked = 0 → firstPort ≤ got.toNat

/-- A port cannot be bound: it is taken, or, where any will do, all are that are given out. -/
def Unavailable (taken : List UInt16) (asked : UInt16) : Prop :=
  (asked ≠ 0 ∧ asked ∈ taken) ∨
    (asked = 0 ∧ ∀ port : UInt16, firstPort ≤ port.toNat → port ∈ taken)

theorem firstFree?_spec (taken : List UInt16) (port count : Nat) (small : port + count ≤ 65536) :
    (∃ got, firstFree? taken port count = some got ∧ got ∉ taken ∧ port ≤ got.toNat) ∨
      (firstFree? taken port count = none ∧
        ∀ p : UInt16, port ≤ p.toNat → p.toNat < port + count → p ∈ taken) := by
  induction count generalizing port with
  | zero => exact .inr ⟨rfl, fun p low high => absurd high (by omega)⟩
  | succ count ih =>
      have here : (UInt16.ofNat port).toNat = port :=
        UInt16.toNat_ofNat_of_lt' (by rw [UInt16.size]; omega)
      by_cases isTaken : taken.contains (UInt16.ofNat port) = true
      · rw [firstFree?, if_pos isTaken]
        obtain ⟨got, found, free, low⟩ | ⟨none, full⟩ := ih (port + 1) (by omega)
        · exact .inl ⟨got, found, free, by omega⟩
        · refine .inr ⟨none, fun p low high => ?_⟩
          by_cases same : p.toNat = port
          · obtain rfl : p = UInt16.ofNat port := UInt16.toNat_inj.mp (same.trans here.symm)
            exact List.contains_iff_mem.mp isTaken
          · exact full p (by omega) (by omega)
      · rw [firstFree?, if_neg isTaken]
        exact .inl ⟨_, rfl, fun mem => isTaken (List.contains_iff_mem.mpr mem), here.ge⟩

/-- A port is bound and noted, or it is told that it cannot be. -/
theorem bindPort_cases (asked : UInt16) (w : World) (t : Trace) :
    (∃ got, Gives (w.takenPorts ++ t.boundPorts) asked got ∧
      bindPort asked w t = (.ok got, { t with boundPorts := t.boundPorts ++ [got] })) ∨
    (Unavailable (w.takenPorts ++ t.boundPorts) asked ∧
      bindPort asked w t = (.error (.portInUse asked.toNat .addressInUse), t)) := by
  rw [bindPort]
  by_cases any : asked = 0
  · simp only [if_pos any]
    obtain ⟨got, found, free, low⟩ | ⟨none, full⟩ :=
      firstFree?_spec (w.takenPorts ++ t.boundPorts) firstPort (65536 - firstPort) (by decide)
    · rw [found]
      exact .inl ⟨got, ⟨free, fun named => absurd any named, fun _ => low⟩, rfl⟩
    · rw [none]
      refine .inr ⟨.inr ⟨any, fun port low => full port low ?_⟩, rfl⟩
      exact lt_of_lt_of_eq port.toNat_lt (by decide)
  · simp only [if_neg any]
    by_cases isTaken : (w.takenPorts ++ t.boundPorts).contains asked = true
    · rw [if_pos isTaken]
      exact .inr ⟨.inl ⟨any, List.contains_iff_mem.mp isTaken⟩, rfl⟩
    · rw [if_neg isTaken]
      refine .inl ⟨asked, ⟨fun mem => ?_, fun _ => rfl, fun none => absurd none any⟩, rfl⟩
      exact isTaken (List.contains_iff_mem.mpr mem)

/-! ## One spec -/

/-- The request for the containers of a service. -/
def listing (c : Context) (service : String) : Request :=
  .list (serviceLabels c (labelled c service))

/-- What a daemon lists for a service. -/
def listed (d : Daemon) (c : Context) (service : String) : Except DockerFailure (List Summary) :=
  (d.answer (listing c service)).read Docker.Document.summaries

/-- What a daemon says of a container. -/
def inspected (d : Daemon) (name : String) : Except DockerFailure Inspection :=
  (d.answer (.inspect name)).read Docker.Document.inspection

/-- The filter that a failure to list the containers of a service shows. -/
def shownFilter (c : Context) (service : String) : String :=
  let shown := ", ".intercalate ((serviceLabels c (labelled c service)).map Text.quoted)
  "\x7b\"label\": [" ++ shown ++ "]\x7d"

/-- The network on which a project's services have their addresses. -/
def projectNetwork (c : Context) : String := c.projectName ++ "_default"

/-- The first container that is listed for a service has a name. -/
def Finds (d : Daemon) (c : Context) (service name : String) : Prop :=
  ∃ summaries, listed d c service = .ok summaries ∧ firstName? summaries = some name

/-- A container has an address on the project's network. -/
def Places (d : Daemon) (c : Context) (name host : String) : Prop :=
  ∃ i, inspected d name = .ok i ∧ address? i (projectNetwork c) = some host

/-- A spec is set up, while some ports are taken: the container of its service has a name, and
the route leads from the port of the spec to the address of this container and the remote port
of the spec. -/
structure SetsUp (d : Daemon) (c : Context) (taken : List UInt16) (spec : Spec) (name : String)
    (r : Route) : Prop where
  finds : Finds d c spec.service name
  places : Places d c name r.host
  localPort : Gives taken spec.localPort r.localPort
  remotePort : r.remotePort = spec.remotePort

/-- Setting up a spec, while some ports are taken, stops at a failure, after some requests. -/
inductive Stops (d : Daemon) (c : Context) (taken : List UInt16) (spec : Spec) :
    Failure → List Request → Prop where
  | unlisted {why : DockerFailure} (refused : listed d c spec.service = .error why) :
      Stops d c taken spec (.docker .listContainers (shownFilter c spec.service) why)
        [listing c spec.service]
  | noContainer {summaries : List Summary} (lists : listed d c spec.service = .ok summaries)
      (missing : firstName? summaries = none) :
      Stops d c taken spec (.containerNotFound spec.service c.projectName)
        [listing c spec.service]
  | uninspected {name : String} {why : DockerFailure} (finds : Finds d c spec.service name)
      (refused : inspected d name = .error why) :
      Stops d c taken spec (.docker .inspectContainer name why)
        [listing c spec.service, .inspect name]
  | noNetwork {name : String} {i : Inspection} (finds : Finds d c spec.service name)
      (inspects : inspected d name = .ok i) (missing : address? i (projectNetwork c) = none) :
      Stops d c taken spec (.networkNotFound (projectNetwork c) name)
        [listing c spec.service, .inspect name]
  | noPort {name host : String} (finds : Finds d c spec.service name) (places : Places d c name host)
      (unavailable : Unavailable taken spec.localPort) :
      Stops d c taken spec (.portInUse spec.localPort.toNat .addressInUse)
        [listing c spec.service, .inspect name]

/-- Looking up a service's container asks for the list of its containers. -/
theorem findContainer_steps (client : Docker.Client) (c : Context) (service : String) (w : World)
    (t : Trace) :
    Compose.findContainer client c service w t =
      ((match listed client.daemon c service with
        | .error why => .error (.docker .listContainers (shownFilter c service) why)
        | .ok summaries => (firstName? summaries).elim
            (.error (.containerNotFound service c.projectName)) .ok),
        t.asked [listing c service]) := by
  have lists : client.list (serviceLabels c (labelled c service)) w t =
      ((listed client.daemon c service).mapError
        (.docker .listContainers (shownFilter c service)), t.asked [listing c service]) := rfl
  rw [Compose.findContainer, Compose.containerName, Compose.serviceName_eq, bind_assoc]
  cases answered : listed client.daemon c service with
  | error why =>
      rw [answered] at lists
      exact Act.bind_error lists
  | ok summaries =>
      rw [answered] at lists
      rw [Act.bind_ok lists, pure_bind]
      simp only
      cases firstName? summaries with
      | none => rfl
      | some name => rfl

/-- Looking up a container's address asks for its inspection. -/
theorem serviceAddress_steps (client : Docker.Client) (c : Context) (name : String) (w : World)
    (t : Trace) :
    Compose.serviceAddress client c name w t =
      ((match inspected client.daemon name with
        | .error why => .error (.docker .inspectContainer name why)
        | .ok i => (address? i (projectNetwork c)).elim
            (.error (.networkNotFound (projectNetwork c) name)) .ok),
        t.asked [.inspect name]) := by
  have inspects : client.inspect name w t =
      ((inspected client.daemon name).mapError (.docker .inspectContainer name),
        t.asked [.inspect name]) := rfl
  have network : c.defaultNetwork = projectNetwork c := rfl
  rw [Compose.serviceAddress, network]
  cases answered : inspected client.daemon name with
  | error why =>
      rw [answered] at inspects
      exact Act.bind_error inspects
  | ok i =>
      rw [answered] at inspects
      rw [Act.bind_ok inspects]
      simp only
      cases address? i (projectNetwork c) with
      | none => rfl
      | some host => rfl

/-- **One step.** A spec is set up, with two requests and a bound port, or the first of its steps
that fails is where setting it up stops, with nothing bound. -/
theorem setUp_cases (c : Context) (client : Docker.Client) (spec : Spec) (w : World) (t : Trace) :
    (∃ name r, SetsUp client.daemon c (w.takenPorts ++ t.boundPorts) spec name r ∧
      setUp c client spec w t =
        (.ok r, t.prepared [listing c spec.service, .inspect name] [r.localPort])) ∨
    ∃ f asked, Stops client.daemon c (w.takenPorts ++ t.boundPorts) spec f asked ∧
      setUp c client spec w t = (.error f, t.asked asked) := by
  rw [setUp]
  have finding := findContainer_steps client c spec.service w t
  cases lists : listed client.daemon c spec.service with
  | error why =>
      rw [lists] at finding
      exact .inr ⟨_, _, .unlisted lists, Act.bind_error finding⟩
  | ok summaries =>
      cases named : firstName? summaries with
      | none =>
          simp only [lists, named, Option.elim_none] at finding
          exact .inr ⟨_, _, .noContainer lists named, Act.bind_error finding⟩
      | some name =>
          simp only [lists, named, Option.elim_some] at finding
          have finds : Finds client.daemon c spec.service name := ⟨summaries, lists, named⟩
          rw [Act.bind_ok finding]
          have placing := serviceAddress_steps client c name w (t.asked [listing c spec.service])
          simp only [Trace.asked_asked, List.cons_append, List.nil_append] at placing
          cases inspects : inspected client.daemon name with
          | error why =>
              rw [inspects] at placing
              exact .inr ⟨_, _, .uninspected finds inspects, Act.bind_error placing⟩
          | ok i =>
              cases placed : address? i (projectNetwork c) with
              | none =>
                  simp only [inspects, placed, Option.elim_none] at placing
                  exact .inr ⟨_, _, .noNetwork finds inspects placed, Act.bind_error placing⟩
              | some host =>
                  simp only [inspects, placed, Option.elim_some] at placing
                  have places : Places client.daemon c name host := ⟨i, inspects, placed⟩
                  rw [Act.bind_ok placing]
                  obtain ⟨got, gives, binds⟩ | ⟨unavailable, refuses⟩ :=
                    bindPort_cases spec.localPort w
                      (t.asked [listing c spec.service, .inspect name])
                  · exact .inl ⟨name, ⟨got, host, spec.remotePort⟩,
                      ⟨finds, places, gives, rfl⟩, Act.bind_ok binds⟩
                  · exact .inr ⟨_, _, .noPort finds places unavailable, Act.bind_error refuses⟩

/-! ## All specs -/

/-- Specs are set up one after another, each with the ports of those before it taken: there is
one route for each of them, and two requests are made for it. -/
inductive SetsUpAll (d : Daemon) (c : Context) :
    List UInt16 → List Spec → List Route → List Request → Prop where
  | nil {taken : List UInt16} : SetsUpAll d c taken [] [] []
  | cons {taken : List UInt16} {spec : Spec} {specs : List Spec} {name : String} {r : Route}
      {routes : List Route} {requests : List Request} (first : SetsUp d c taken spec name r)
      (others : SetsUpAll d c (taken ++ [r.localPort]) specs routes requests) :
      SetsUpAll d c taken (spec :: specs) (r :: routes)
        (listing c spec.service :: .inspect name :: requests)

theorem SetsUpAll.length_eq {routes : List Route} {requests : List Request}
    (all : SetsUpAll d c taken specs routes requests) : routes.length = specs.length := by
  induction all with
  | nil => rfl
  | cons first others ih => rw [List.length_cons, List.length_cons, ih]

/-- Setting specs up stops at the first one that cannot be set up: those before it are set up,
and those after it do not matter. -/
inductive StopsAt (d : Daemon) (c : Context) (taken : List UInt16) :
    List Spec → Failure → List Request → List UInt16 → Prop where
  | first {before after : List Spec} {spec : Spec} {routes : List Route} {f : Failure}
      {requests asked : List Request} (setsUp : SetsUpAll d c taken before routes requests)
      (stops : Stops d c (taken ++ routes.map (·.localPort)) spec f asked) :
      StopsAt d c taken (before ++ spec :: after) f (requests ++ asked)
        (routes.map (·.localPort))

/-- **The run.** Either all specs are set up, or setting them up stops at the first one that
cannot be. -/
theorem mapM_setUp_cases (c : Context) (client : Docker.Client) (specs : List Spec) (w : World)
    (t : Trace) :
    (∃ routes requests,
      SetsUpAll client.daemon c (w.takenPorts ++ t.boundPorts) specs routes requests ∧
      specs.mapM (setUp c client) w t =
        (.ok routes, t.prepared requests (routes.map (·.localPort)))) ∨
    ∃ f requests bound,
      StopsAt client.daemon c (w.takenPorts ++ t.boundPorts) specs f requests bound ∧
      specs.mapM (setUp c client) w t = (.error f, t.prepared requests bound) := by
  induction specs generalizing t with
  | nil => exact .inl ⟨[], [], .nil, by simp [Trace.prepared, Trace.asked]⟩
  | cons spec specs ih =>
      rw [List.mapM_cons]
      obtain ⟨name, r, first, ends⟩ | ⟨f, asked, stops, ends⟩ := setUp_cases c client spec w t
      · rw [Act.bind_ok ends]
        -- the other specs find the port that was bound for this one taken
        specialize ih (t.prepared [listing c spec.service, .inspect name] [r.localPort])
        simp only [Trace.prepared_prepared, Trace.prepared_boundPorts, ← List.append_assoc] at ih
        obtain ⟨routes, requests, others, rest⟩ | ⟨f, _, _, ⟨others, stops⟩, rest⟩ := ih
        · refine .inl ⟨r :: routes, _, .cons first others, ?_⟩
          rw [Act.bind_ok rest]
          rfl
        · rw [List.append_assoc, ← List.map_singleton, ← List.map_append] at stops
          refine .inr ⟨f, _, _, .first (.cons first others) stops, ?_⟩
          rw [Act.bind_error rest]
          rfl
      · rw [← List.append_nil (w.takenPorts ++ t.boundPorts)] at stops
        refine .inr ⟨f, asked, [], .first .nil stops, ?_⟩
        rw [Act.bind_error ends, Trace.prepared_unbound]

/-! ## Serving -/

/-- What has been printed, line after line. -/
def printed (s : Output.Sink) (lines : List String) : Output.Sink :=
  lines.foldl (fun s line => (s.write (Text.Utf8.encode (line ++ "\n"))).1) s

/-- The lines that tell of the routes of a link, and the last one. -/
def announcements (styled : Bool) (l : Link) (routes : List Route) : List String :=
  routes.map (announcement styled · (transport l)) ++ [farewell styled]

theorem printAll_apply (styled : Bool) (l : Link) (routes : List Route) (w : World) (t : Trace) :
    (forIn routes PUnit.unit fun r _ => do
      Act.printLine (announcement styled r (transport l))
      pure (ForInStep.yield PUnit.unit) : Act PUnit) w t =
      (.ok .unit, { t with
        stdout := printed t.stdout (routes.map (announcement styled · (transport l))) }) := by
  induction routes generalizing t with
  | nil => rfl
  | cons r routes ih =>
      rw [List.forIn_cons, bind_assoc]
      exact ih _

/-- Serving tells of all routes, in colour where variables ask for it, and changes nothing
else. -/
theorem serve_apply (l : Link) (routes : List Route) (w : World) (t : Trace) :
    serve l routes w t = (.ok routes, { t with
      stdout := printed t.stdout (announcements (Style.isForced w.environment) l routes) }) := by
  have looks : Act.styled w t = (.ok (Style.isForced w.environment), t) := rfl
  rw [serve, Act.bind_ok looks, Act.bind_ok (printAll_apply _ l routes w t), announcements, printed,
    printed, List.foldl_append]
  rfl

/-! ## The guarantee -/

/-- What is left behind where a daemon has been reached: it has been asked for its version and
then some requests, some ports are bound, and some lines are printed. -/
structure Leaves (before : Trace) (requests : List Request) (bound : List UInt16)
    (lines : List String) (after : Trace) : Prop where
  requests : after.requests = before.requests ++ .version :: requests
  bound : after.boundPorts = before.boundPorts ++ bound
  stdout : after.stdout = printed before.stdout lines

/-- What is done for some specs once a daemon has been reached. -/
def forwarding (c : Context) (specs : List Spec) (l : Link) : Act (List Route) := do
  let routes ← specs.mapM (setUp c l.client)
  if routes.isEmpty then .fail (.config .noForwards) else serve l routes

theorem forwarding_done {l : Link} {routes : List Route} {after : Trace} (nonempty : specs ≠ [])
    (length : routes.length = specs.length)
    (ends : specs.mapM (setUp c l.client) w t = (.ok routes, after)) :
    forwarding c specs l w t =
      (.ok routes, { after with
        stdout := printed after.stdout (announcements (Style.isForced w.environment) l routes) }) := by
  have some : routes.isEmpty = false := by
    rw [List.isEmpty_eq_false_iff, ← List.length_pos_iff, length, List.length_pos_iff]
    exact nonempty
  rw [forwarding, Act.bind_ok ends, some]
  exact serve_apply l routes w after

/-- What forwarding leaves once a daemon has been reached is left in the end. -/
theorem Leaves.of_ends {l : Link} {start after : Trace} {r : Except Failure (List Route)}
    {requests : List Request} {bound : List UInt16} {lines : List String}
    (reaches : Docker.Reaches w c t l start) (ends : forwarding c specs l w start = (r, after))
    (asks : after.requests = start.requests ++ requests)
    (binds : after.boundPorts = start.boundPorts ++ bound)
    (prints : after.stdout = printed start.stdout lines) :
    Leaves t requests bound lines (withDaemon c (forwarding c specs) w t).2 where
  requests := by
    rw [reaches.asked, ends, asks, reaches.requests, List.append_assoc]
    rfl
  bound := by rw [(reaches.left _).boundPorts, ends, binds, reaches.beside.boundPorts]
  stdout := by rw [(reaches.left _).stdout, ends, prints, reaches.beside.stdout]

theorem run_read {texts : List String} (read : Spec.parseAll texts = .ok specs) :
    run c texts = withDaemon c (forwarding c specs) := by
  rw [run, read]
  rfl

/-- **All or nothing.** If a spec cannot be read, the first such spec is told of, and nothing has
been done. Otherwise, if the daemon cannot be reached, that is the failure, and nothing is bound
or printed. If it can, either all specs are set up, one after another and with their own routes,
and then served; or the first step that fails of the first spec that cannot be set up is the
failure: nothing is asked for or bound after it, and nothing is served. -/
theorem forwards_all_or_nothing (c : Context) (texts : List String) (w : World) (t : Trace) :
    (∀ before bad after f, texts = before ++ bad :: after →
      (∀ text ∈ before, ∃ spec, Spec.parse text = .ok spec) → Spec.parse bad = .error f →
        run c texts w t = (.error f, t)) ∧
    ∀ specs, texts.map Spec.parse = specs.map .ok → specs ≠ [] →
      (∀ f, (withDaemon c pure w t).1 = .error f →
        (run c texts w t).1 = .error f ∧ t.Beside (run c texts w t).2) ∧
      ∀ l, (withDaemon c pure w t).1 = .ok l →
        LeadsTo w c l.client.daemon ∧
        ((∃ routes requests,
          SetsUpAll l.client.daemon c (w.takenPorts ++ t.boundPorts) specs routes requests ∧
            (run c texts w t).1 = .ok routes ∧
            Leaves t requests (routes.map (·.localPort))
              (announcements (Style.isForced w.environment) l routes) (run c texts w t).2) ∨
        ∃ f requests bound,
          StopsAt l.client.daemon c (w.takenPorts ++ t.boundPorts) specs f requests bound ∧
            (run c texts w t).1 = .error f ∧ Leaves t requests bound [] (run c texts w t).2) := by
  refine ⟨?_, fun specs read nonempty => ?_⟩
  · rintro before bad after f rfl readable fails
    rw [run, Spec.parseAll_fails readable fails]
    rfl
  rw [run_read (Spec.parseAll_read read)]
  obtain ⟨f, after, beside, -, fails⟩ | ⟨l, start, reaches⟩ := Docker.withDaemon_cases w c t
  · rw [fails pure, fails]
    refine ⟨fun f' failed => ?_, fun l connects => ?_⟩
    · cases failed
      exact ⟨rfl, beside⟩
    · cases connects
  rw [reaches.result pure]
  refine ⟨fun f failed => ?_, fun l' connects => ?_⟩
  · cases failed
  obtain rfl : l = l' := Except.ok.inj connects
  refine ⟨reaches.leads, ?_⟩
  rw [reaches.result]
  obtain ⟨routes, requests, all, ends⟩ | ⟨f, requests, bound, stops, ends⟩ :=
    mapM_setUp_cases c l.client specs w start
  · have works := forwarding_done nonempty all.length_eq ends
    rw [reaches.beside.boundPorts] at all
    exact .inl ⟨routes, requests, all, by rw [works], .of_ends reaches works rfl rfl rfl⟩
  · have works : forwarding c specs l w start = (.error f, start.prepared requests bound) :=
      Act.bind_error ends
    rw [reaches.beside.boundPorts] at stops
    exact .inr ⟨f, requests, bound, stops, by rw [works], .of_ends reaches works rfl rfl rfl⟩

/-- A daemon that lists one container, whatever is asked for, and inspects it as one that is on
the gallery's network. -/
def tersely : Daemon where
  apiVersion := "1.47"
  containers := []
  exec := ⟨"", [], none, false, false⟩
  responses := [(.list, ⟨200, Text.Utf8.encode "[\x7b\"Names\":[\"/a\"]\x7d]"⟩),
    (.inspect, ⟨200, Text.Utf8.encode
      "\x7b\"NetworkSettings\":\x7b\"Networks\":\x7b\"gallery_default\":\x7b\x7d\x7d\x7d\x7d"⟩)]

/-- The gallery's world with this daemon. -/
def terseWorld : World :=
  { galleryWorld with daemons := [(["var", "run", "docker.sock"], tersely)] }

/-- A spec that cannot be read keeps the daemon from being asked for anything, also behind specs
that can. Of two specs that can be read but want one port, the second one fails, when its service
has been looked up and the port is bound for the first one; nothing is printed. -/
theorem gallery_forwards :
    run gallery ["8080:solr:8983", "8080:solr", "1:db:2"] terseWorld {} =
      (.error (.forwardSpec "8080:solr" .shape), {}) ∧
    (run gallery ["8080:solr:8983", "8080:db:80"] terseWorld {}).1 =
      .error (.portInUse 8080 .addressInUse) ∧
    ∃ d requests bound, LeadsTo terseWorld gallery d ∧
      StopsAt d gallery [] [⟨8080, "solr", 8983⟩, ⟨8080, "db", 80⟩]
        (.portInUse 8080 .addressInUse) requests bound ∧
      Leaves {} requests bound []
        (run gallery ["8080:solr:8983", "8080:db:80"] terseWorld {}).2 := by
  obtain ⟨malformed, -⟩ := forwards_all_or_nothing gallery
    ["8080:solr:8983", "8080:solr", "1:db:2"] terseWorld {}
  obtain ⟨-, readable⟩ := forwards_all_or_nothing gallery
    ["8080:solr:8983", "8080:db:80"] terseWorld {}
  have fails : (run gallery ["8080:solr:8983", "8080:db:80"] terseWorld {}).1 =
      .error (.portInUse 8080 .addressInUse) := by decide +kernel
  refine ⟨?_, fails, ?_⟩
  · refine malformed ["8080:solr:8983"] "8080:solr" ["1:db:2"] _ rfl (fun text mem => ?_) (by decide)
    exact ⟨⟨8080, "solr", 8983⟩, by rw [List.mem_singleton.mp mem]; decide⟩
  · obtain ⟨-, reached⟩ := readable [⟨8080, "solr", 8983⟩, ⟨8080, "db", 80⟩] (by decide)
      (by decide)
    cases connects : (withDaemon gallery pure terseWorld {}).1 with
    | error f =>
        have connected : (withDaemon gallery pure terseWorld {}).1.isOk = true := by
          decide +kernel
        rw [connects] at connected
        cases connected
    | ok l =>
        obtain ⟨leads, outcome⟩ := reached l connects
        rw [fails] at outcome
        obtain ⟨routes, requests, -, served, -⟩ | ⟨f, requests, bound, stops, same, leaves⟩ := outcome
        · cases served
        · cases same
          exact ⟨l.client.daemon, requests, bound, leads, stops, leaves⟩

end Forward

end ComposeSite
