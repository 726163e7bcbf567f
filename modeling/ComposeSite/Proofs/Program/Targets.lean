/-
# ComposeSite.Proofs.Program.Targets -- whose containers commands touch

Commands look containers up by the labels of a project and a service, and then call them by a
name.  On a daemon whose containers are listed as they should be and are well named, whatever
is asked about a container is asked about one that runs a service of the command, in the
project of the context (`AboutService`); where no container runs a service, its lookup is the
last thing that the command does (`lookups_keep_to_their_service`).
-/
import ComposeSite.Proofs.Compose.Lookup
import ComposeSite.Proofs.Docker.Reach

set_option autoImplicit false

namespace ComposeSite

open Compose (labelled projectLabel running? serviceLabel serviceLabels)
open Docker (Daemon Link Request withDaemon)

variable {w : World} {c : Context} {d : Daemon} {t : Trace}

/-! ## Requests -/

/-- A context leads to one daemon. -/
theorem LeadsTo.unique {d' : Daemon} (leads : LeadsTo w c d) (leads' : LeadsTo w c d') :
    d = d' := by
  cases leads with
  | here kind alive listens =>
      cases leads' with
      | here kind' alive' listens' =>
          cases alive.symm.trans alive'
          exact Option.some.inj (listens.symm.trans listens')
      | remote kind' addressed' answers' listens' =>
          rw [kind] at kind'
          cases kind'
  | remote kind addressed answers listens =>
      cases leads' with
      | here kind' alive' listens' =>
          rw [kind] at kind'
          cases kind'
      | remote kind' addressed' answers' listens' =>
          cases addressed.symm.trans addressed'
          cases answers.symm.trans answers'
          exact Option.some.inj (listens.symm.trans listens')

/-- A request is about the container that runs a service, and calls it by its first name. -/
def AboutService (d : Daemon) (c : Context) (service : String) (r : Request) : Prop :=
  ∃ k name, running? d c.projectName (labelled c service) = some k ∧
    k.label? projectLabel = some c.projectName ∧
    k.label? serviceLabel = some (labelled c service) ∧
    k.names.head? = some ("/" ++ name) ∧ r.container? = some name ∧ d.addressed? r = some k

/-- A name is that of the container that runs one of some services. -/
def NamesService (d : Daemon) (c : Context) (services : List String) (name : String) : Prop :=
  ∃ service ∈ services, ∃ k, running? d c.projectName (labelled c service) = some k ∧
    k.names.head? = some ("/" ++ name) ∧ Docker.Legal name ∧ d.named? name = some k

theorem NamesService.about {services : List String} {r : Request} {name : String}
    (about : r.container? = some name) (named : NamesService d c services name) :
    ∃ service ∈ services, AboutService d c service r := by
  obtain ⟨service, mem, k, runs, first, legal, known⟩ := named
  obtain ⟨-, project, byService, -⟩ := Compose.running?_spec runs
  refine ⟨service, mem, k, name, runs, project, byService, first, about, ?_⟩
  cases r with
  | inspect container =>
      cases about
      rw [Docker.addressed?_inspect legal, known]
  | createExec container config =>
      cases about
      rw [Docker.addressed?_createExec legal, known]
  | _ => cases about

/-- Daemons may be asked about containers that run one of some services. -/
def Permit.toServices (d : Daemon) (c : Context) (services : List String) : Permit where
  request r := ∀ name ∈ r.container?, NamesService d c services name

/-- A command asks about the containers that run its services, and about no others. -/
theorem perform_about (leads : LeadsTo w c d) (regular : d.Regular) (wellNamed : d.WellNamed)
    (command : CommandLine.Command) (t : Trace) :
    ∃ new, (Program.perform c command w t).2.requests = t.requests ++ new ∧
      ∀ r ∈ new, r.container?.isSome →
        ∃ service ∈ Program.services c command, AboutService d c service r := by
  have obeys : (Program.perform c command).Obeys w
      (.toServices d c (Program.services c command)) fun _ => True := by
    refine Program.perform_obeys (fun _ => ⟨fun _ => trivial, fun _ => trivial⟩)
      (fun _ => trivial) (fun r allowed => allowed) ?_
    intro client leads' service mem t name found
    obtain rfl := leads.unique leads'
    exact ⟨service, mem, Compose.findContainer_found regular wellNamed found⟩
  obtain ⟨new, added, allowed⟩ := (obeys t).1.requests
  refine ⟨new, added, fun r mem about => ?_⟩
  obtain ⟨name, about⟩ := Option.isSome_iff_exists.mp about
  exact NamesService.about about (allowed r mem name about)

/-! ## Missing containers -/

/-- An act fails for want of a container of a service, and looking for it is the last thing
that is asked of a daemon, after some requests. -/
structure Misses {α : Type} (act : Act α) (w : World) (t : Trace) (c : Context) (service : String)
    (before : List Request) : Prop where
  failure : (act w t).1 = .error (.containerNotFound service c.projectName)
  requests : (act w t).2.requests = before ++ [.list (serviceLabels c (labelled c service))]

section Missing

variable {α β : Type} {service : String} {before : List Request}

theorem Misses.bind {act : Act α} (misses : Misses act w t c service before) (next : α → Act β) :
    Misses (act >>= next) w t c service before := by
  obtain ⟨failure, requests⟩ := misses
  rcases ended : act w t with ⟨r, after⟩
  rw [ended] at failure requests
  cases failure
  have stops : (act >>= next) w t = (.error (.containerNotFound service c.projectName), after) :=
    Act.bind_error ended
  exact ⟨by rw [stops], by rw [stops]; exact requests⟩

theorem Misses.map {act : Act α} (misses : Misses act w t c service before) (f : α → β) :
    Misses (f <$> act) w t c service before := by
  rw [map_eq_pure_bind]
  exact misses.bind _

/-- Work with a daemon, the next step of which is the lookup of a service that no container
runs, ends there. -/
theorem withDaemon_misses (leads : LeadsTo w c d) (regular : d.Regular)
    (missing : running? d c.projectName (labelled c service) = none) {work : Link → Act α}
    {earlier : Link → Act β} (later : Link → β → String → Act α)
    (next : ∀ l, work l = earlier l >>= fun b =>
      Compose.findContainer l.client c service >>= later l b)
    {b : β} (done : (withDaemon c earlier w t).1 = .ok b) :
    Misses (withDaemon c work) w t c service (withDaemon c earlier w t).2.requests := by
  rcases Docker.withDaemon_cases w c t with ⟨f, after, -, -, fails⟩ | ⟨l, start, reaches⟩
  · rw [fails earlier] at done
    cases done
  obtain rfl := leads.unique reaches.leads
  rw [reaches.result earlier] at done
  rcases ended : earlier l w start with ⟨r, after⟩
  rw [ended] at done
  cases done
  have stops : work l w start = (.error (.containerNotFound service c.projectName),
      after.asked [.list (serviceLabels c (labelled c service))]) := by
    rw [next l, Act.bind_ok ended]
    exact Act.bind_error (Compose.findContainer_missing regular missing w after)
  constructor
  · rw [reaches.result work, stops]
  · rw [reaches.asked work, reaches.asked earlier, stops, ended]
    rfl

/-- Where a daemon can be connected to, work that does nothing gives what it has, and the
daemon has been asked for its version. -/
theorem withDaemon_pure {l : Link} (connects : (withDaemon c pure w t).1 = .ok l) (b : β) :
    (withDaemon c (fun _ => pure b) w t).1 = .ok b ∧
      (withDaemon c (fun _ => pure b) w t).2.requests = t.requests ++ [.version] := by
  rcases Docker.withDaemon_cases w c t with ⟨f, after, -, -, fails⟩ | ⟨l, start, reaches⟩
  · rw [fails pure] at connects
    cases connects
  · exact ⟨reaches.result _, (reaches.asked _).trans reaches.requests⟩

/-- Forwarding ends at the first spec whose service no container runs. -/
theorem portForward_misses (leads : LeadsTo w c d) (regular : d.Regular) {specs : List String}
    {before after : List Forward.Spec} {spec : Forward.Spec}
    (parsed : Forward.Spec.parseAll specs = .ok (before ++ spec :: after))
    (missing : running? d c.projectName (labelled c spec.service) = none)
    {routes : List Forward.Route}
    (done : (withDaemon c (fun l => before.mapM (Forward.setUp c l.client)) w t).1 = .ok routes) :
    Misses (Program.perform c (.portForward specs)) w t c spec.service
      (withDaemon c (fun l => before.mapM (Forward.setUp c l.client)) w t).2.requests := by
  have run : Forward.run c specs = fun w t => withDaemon c (fun l =>
      (before ++ spec :: after).mapM (Forward.setUp c l.client) >>= fun routes =>
        if routes.isEmpty then .fail (.config .noForwards) else Forward.serve l routes) w t := by
    rw [Forward.run, parsed]
    rfl
  refine Misses.bind ?_ _
  rw [run]
  refine withDaemon_misses leads regular missing (fun l earlier container => do
    let host ← Compose.serviceAddress l.client c container
    let localPort ← Forward.bindPort spec.localPort
    let routes ← after.mapM (Forward.setUp c l.client)
    let routes := earlier ++ ⟨localPort, host, spec.remotePort⟩ :: routes
    if routes.isEmpty then .fail (.config .noForwards) else Forward.serve l routes)
    (fun l => ?_) done
  rw [List.mapM_append, List.mapM_cons]
  simp only [bind_assoc, pure_bind, Forward.setUp]

/-- A command whose first service no container runs ends with its lookup. -/
theorem perform_misses (leads : LeadsTo w c d) (regular : d.Regular)
    {command : CommandLine.Command} {others : List String}
    (services : Program.services c command = service :: others)
    (missing : running? d c.projectName (labelled c service) = none) {l : Link}
    (connects : (withDaemon c pure w t).1 = .ok l) :
    Misses (Program.perform c command) w t c service (t.requests ++ [.version]) := by
  have first {α : Type} {later : Link → String → Act α} :
      Misses (withDaemon c fun l => Compose.findContainer l.client c service >>= later l) w t c
        service (t.requests ++ [.version]) := by
    obtain ⟨done, asked⟩ := withDaemon_pure connects ()
    rw [← asked]
    exact withDaemon_misses leads regular missing (fun l _ => later l) (fun _ => rfl) done
  cases command with
  | exec r =>
      cases services
      exact first.map _
  | secret service name =>
      cases services
      exact (first.bind _).bind _
  | env service name =>
      cases services
      exact (first.bind _).bind _
  | dbUri =>
      cases services
      exact (first.bind _).bind _
  | portForward specs =>
      rw [Program.services] at services
      split at services
      · rename_i parsed ok
        obtain ⟨spec, after, rfl, rfl, -⟩ := List.map_eq_cons_iff.mp services
        obtain ⟨done, asked⟩ := withDaemon_pure connects ([] : List Forward.Route)
        rw [← asked]
        have parsedFirst : Forward.Spec.parseAll specs = .ok ([] ++ spec :: after) := ok
        exact portForward_misses leads regular parsedFirst missing done
      · cases services
  | compose args => cases services
  | make args => cases services
  | configShow => cases services

end Missing

/-! ## Commands -/

/-- What a command asks about a container, it asks about one that runs a service of its own.
Where no container runs its first service, it has asked for the version and for the list of
these containers when it fails, and for nothing else.  Only forwarding has other services:
where no container runs one of these, it fails after what setting up the specs before it has
asked, and the list. -/
theorem lookups_keep_to_their_service (leads : LeadsTo w c d) (regular : d.Regular)
    (wellNamed : d.WellNamed) (command : CommandLine.Command) (t : Trace) :
    (∃ new, (Program.perform c command w t).2.requests = t.requests ++ new ∧
      ∀ r ∈ new, r.container?.isSome →
        ∃ service ∈ Program.services c command, AboutService d c service r) ∧
    (∀ service others l, Program.services c command = service :: others →
      (withDaemon c pure w t).1 = .ok l →
      running? d c.projectName (labelled c service) = none →
        Misses (Program.perform c command) w t c service (t.requests ++ [.version])) ∧
    ∀ specs before spec after routes, command = .portForward specs →
      Forward.Spec.parseAll specs = .ok (before ++ spec :: after) →
      (withDaemon c (fun l => before.mapM (Forward.setUp c l.client)) w t).1 = .ok routes →
      running? d c.projectName (labelled c spec.service) = none →
        Misses (Program.perform c command) w t c spec.service
          (withDaemon c (fun l => before.mapM (Forward.setUp c l.client)) w t).2.requests := by
  refine ⟨perform_about leads regular wellNamed command t, ?_, ?_⟩
  · intro service others l services connects missing
    exact perform_misses leads regular services missing connects
  · rintro specs before spec after routes rfl parsed done missing
    exact portForward_misses leads regular parsed missing done

/-! ## A daemon with one container -/

/-- A context on this machine. -/
def gallery : Context where
  name := "gallery"
  kind := .here
  dockerSocket := "/var/run/docker.sock"
  projectName := "gallery"
  projectDir := "/srv/gallery"
  sshUser := ""
  sshHostname := ""
  sshPort := 22
  sshKey := ""
  useSudo := false
  profile := none
  envFiles := []
  composeFiles := []
  databaseService := "db"
  databaseUser := "root"
  databasePasswordSecret := "DB_ROOT_PASSWORD"
  databaseName := "drupal_default"

/-- The container that runs the gallery's search service. -/
def searchContainer : Docker.Container where
  summary := .object [("Names", .texts ["/search"]), ("Labels", .object
    [(projectLabel, .text "gallery"), (serviceLabel, .text "solr")])]
  inspection := some (.object [("NetworkSettings", .object [("Networks", .object
    [("gallery_default", .object [("IPAddress", .text "172.18.0.2")])])])])

/-- A daemon with this container and no other. -/
def searchDaemon : Daemon where
  apiVersion := "1.47"
  containers := [searchContainer]
  exec := ⟨"", [], none, false, false⟩
  responses := []

/-- A world in which this daemon listens. -/
def galleryWorld : World where
  environment := ⟨[]⟩
  files := { entries := [(["var", "run", "docker.sock"], .socket)], workDirectory := [] }
  daemons := [(["var", "run", "docker.sock"], searchDaemon)]

theorem gallery_leads : LeadsTo galleryWorld gallery searchDaemon := by
  have alive : Docker.resolveLocal galleryWorld.environment galleryWorld.files
      gallery.dockerSocket = .ok "/var/run/docker.sock" := by decide +kernel
  have resolves : galleryWorld.files.resolve "/var/run/docker.sock" =
      .ok (["var", "run", "docker.sock"], .socket) := by decide +kernel
  refine .here rfl alive ?_
  rw [World.daemonAt?, resolves]
  rfl

theorem searchDaemon_regular : searchDaemon.Regular := by
  refine ⟨rfl, fun k mem => ?_⟩
  obtain rfl := List.mem_singleton.mp mem
  refine ⟨?_, ⟨_, rfl, by decide⟩, fun v mem => ?_, fun v mem => ?_⟩
  · simp [searchContainer, Json.Value.texts, Json.Value.Whole, Json.WholeItems, Json.WholeMembers]
  · cases mem
    exact .inr ⟨["/search"], rfl⟩
  · cases mem
    exact .inr ⟨[(projectLabel, "gallery"), (serviceLabel, "solr")], rfl⟩

theorem searchDaemon_wellNamed : searchDaemon.WellNamed := by
  refine ⟨fun k mem full named => ?_, List.pairwise_singleton _ _⟩
  obtain rfl := List.mem_singleton.mp mem
  obtain rfl := List.mem_singleton.mp named
  exact ⟨"search", rfl, 's', "earch".toList, rfl, by decide, by decide⟩

/-- A service without a container is looked for once; the other one is asked about. -/
theorem gallery_lookups :
    (∃ new, (Program.perform gallery (.env "solr" "HOME") galleryWorld {}).2.requests = new ∧
      ∀ r ∈ new, r.container?.isSome → AboutService searchDaemon gallery "solr" r) ∧
    (Program.perform gallery .dbUri galleryWorld {}).1 =
      .error (.containerNotFound "db" "gallery") ∧
    (Program.perform gallery .dbUri galleryWorld {}).2.requests =
      [.version, .list (serviceLabels gallery "db")] := by
  obtain ⟨⟨new, asked, about⟩, -, -⟩ := lookups_keep_to_their_service gallery_leads
    searchDaemon_regular searchDaemon_wellNamed (.env "solr" "HOME") {}
  obtain ⟨-, missing, -⟩ := lookups_keep_to_their_service gallery_leads searchDaemon_regular
    searchDaemon_wellNamed .dbUri {}
  have connected : (withDaemon gallery pure galleryWorld {}).1.isOk = true := by decide +kernel
  obtain ⟨l, connects⟩ : ∃ l, (withDaemon gallery pure galleryWorld {}).1 = .ok l := by
    cases ended : (withDaemon gallery pure galleryWorld {}).1 with
    | error f => rw [ended] at connected; cases connected
    | ok l => exact ⟨l, rfl⟩
  have misses := missing "db" [] l rfl connects (by decide +kernel)
  refine ⟨⟨new, asked, fun r mem isAbout => ?_⟩, misses.failure, misses.requests⟩
  obtain ⟨service, isService, aboutService⟩ := about r mem isAbout
  obtain rfl := List.mem_singleton.mp isService
  exact aboutService

/-- Forwarding to two services, the second of which has no container, has asked about the
container of the first when it fails. -/
theorem portForward_inspects_before_missing :
    LeadsTo galleryWorld gallery searchDaemon ∧ searchDaemon.WellNamed ∧
    running? searchDaemon "gallery" (labelled gallery "db") = none ∧
    (Program.perform gallery (.portForward ["8983:solr:8983", "3306:db:3306"])
      galleryWorld {}).1 = .error (.containerNotFound "db" "gallery") ∧
    (Program.perform gallery (.portForward ["8983:solr:8983", "3306:db:3306"])
      galleryWorld {}).2.requests =
        [.version, .list (serviceLabels gallery "solr"), .inspect "search",
          .list (serviceLabels gallery "db")] := by
  have missing : running? searchDaemon "gallery" (labelled gallery "db") = none := by
    decide +kernel
  have first : let setUp := withDaemon gallery (fun l =>
        [⟨8983, "solr", 8983⟩].mapM (Forward.setUp gallery l.client)) galleryWorld {}
      setUp.1 = .ok [⟨8983, "172.18.0.2", 8983⟩] ∧
        setUp.2.requests = [.version, .list (serviceLabels gallery "solr"), .inspect "search"] := by
    decide +kernel
  have parsed : Forward.Spec.parseAll ["8983:solr:8983", "3306:db:3306"] =
      .ok ([⟨8983, "solr", 8983⟩] ++ ⟨3306, "db", 3306⟩ :: []) := by decide +kernel
  have misses := portForward_misses gallery_leads searchDaemon_regular parsed missing first.1
  refine ⟨gallery_leads, searchDaemon_wellNamed, missing, misses.failure,
    misses.requests.trans ?_⟩
  rw [first.2]
  rfl

end ComposeSite
