/-
# ComposeSite.Proofs.Docker.Listing -- what is read of the containers that a daemon lists

A daemon lists a container as an object in which its names and labels may be missing or
null, and among much else (`Container.Regular`).  Of such a list exactly the names are read
back, container by container (`list_matching`): what the daemon writes is read as it was
(`read_reply`).
-/
import ComposeSite.Docker.Client
import ComposeSite.Proofs.Docker.Naming
import ComposeSite.Proofs.Json.Reading

set_option autoImplicit false

namespace ComposeSite.Docker

open Json (Value Reader)

/-- A document is read back from the answer that it was put into. -/
theorem read_reply {α : Type} {reader : Reader α} {v : Value} {a : α} (whole : v.Whole)
    (reads : reader.Reads v a) : (Daemon.reply 200 v).read reader = .ok a := by
  have body : (Daemon.reply 200 v).text.toList = v.chars := by
    rw [Response.text, Daemon.reply, Text.Utf8.decodeLossy_encode, Value.render,
      String.toList_ofList]
  have success : (Daemon.reply 200 v).isSuccess = true := rfl
  rw [Response.read, if_pos success, body, Reader.run_chars whole reads]
  rfl

/-! ## Containers -/

/-- A container is listed as an object, in which names are a list of texts and labels a table
of texts, if they are there. -/
structure Container.Regular (k : Container) : Prop where
  whole : k.summary.Whole
  object : ∃ members, k.summary = .object members ∧ (members.map Prod.fst).Nodup
  names : ∀ v ∈ k.summary.get? "Names", v = .null ∨ ∃ names, v = .texts names
  labels : ∀ v ∈ k.summary.get? "Labels", v = .null ∨
    ∃ labels : List (String × String), v = .object (labels.map fun l => (l.1, .text l.2))

/-- What the member of a listed container that states its names is read as. -/
def namesOf (v : Value) : Option (List String) := v.items?.map (·.filterMap Value.text?)

/-- What a listed container is read as. -/
def Container.listed (k : Container) : Summary := ⟨(k.summary.get? "Names").bind namesOf⟩

theorem Container.names_listed (k : Container) : k.listed.names.getD [] = k.names := by
  rw [Container.names, Container.listed]
  cases k.summary.get? "Names" with
  | none => rfl
  | some v =>
      show (namesOf v).getD [] = (v.items?.getD []).filterMap Value.text?
      cases items : v.items? with
      | none => rw [namesOf, items]; rfl
      | some items' => rw [namesOf, items]; rfl

theorem namesOf_texts (names : List String) : namesOf (.texts names) = some names := by
  show some ((names.map Value.text).filterMap Value.text?) = some names
  rw [List.filterMap_map]
  exact congrArg some List.filterMap_some

/-- Names that are there are read as they are. -/
theorem reads_names {v : Value} (regular : v = .null ∨ ∃ names, v = .texts names) :
    (Reader.optional (Reader.list Reader.text)).Reads v (namesOf v) := by
  rcases regular with rfl | ⟨names, rfl⟩
  · exact Reader.reads_null _
  · have each : (Reader.list Reader.text).Reads (.texts names) (names.map id) :=
      Reader.reads_list fun name _ => Reader.reads_text name
    rw [List.map_id] at each
    rw [namesOf_texts]
    exact each.optional (by intro same; cases same)

theorem reads_labels {v : Value} (regular : v = .null ∨
    ∃ labels : List (String × String), v = .object (labels.map fun l => (l.1, .text l.2))) :
    ∃ labels, (Reader.optional (Reader.table Reader.text)).Reads v labels := by
  rcases regular with rfl | ⟨labels, rfl⟩
  · exact ⟨none, Reader.reads_null _⟩
  · have each := Reader.reads_table Value.text id labels fun l _ => Reader.reads_text l.2
    exact ⟨_, each.optional (by intro same; cases same)⟩

theorem summaryMember_other {key : String} (noNames : key ≠ "Names") (noLabels : key ≠ "Labels") :
    Document.summaryMember key = none := by
  rw [Document.summaryMember]
  · exact noNames
  · exact noLabels

theorem lookup_cons_of_ne {key name : String} (other : key ≠ name) (v : Value)
    (members : List (String × Value)) :
    List.lookup name ((key, v) :: members) = List.lookup name members := by
  have differs : (name == key) = false := beq_false_of_ne (Ne.symm other)
  rw [List.lookup_cons, differs]

theorem lookup_eq_none_of_notMem {name : String} {members : List (String × Value)}
    (fresh : name ∉ members.map Prod.fst) : members.lookup name = none := by
  refine List.lookup_eq_none_iff.mpr fun m mem => bne_iff_ne.mpr ?_
  rintro rfl
  exact fresh (List.mem_map_of_mem mem)

/-- The members of a listed container are read one after the other; only names count. -/
theorem summary_steps {members : List (String × Value)}
    (distinct : (members.map Prod.fst).Nodup)
    (names : ∀ v ∈ members.lookup "Names", v = .null ∨ ∃ names, v = .texts names)
    (labels : ∀ v ∈ members.lookup "Labels", v = .null ∨
      ∃ labels : List (String × String), v = .object (labels.map fun l => (l.1, .text l.2)))
    (s : Summary) :
    Reader.Steps Document.summaryMember s members
      ⟨((members.lookup "Names").map namesOf).getD s.names⟩ := by
  induction members generalizing s with
  | nil => exact .done s
  | cons member members ih =>
      obtain ⟨key, v⟩ := member
      obtain ⟨fresh, apart⟩ := List.nodup_cons.mp distinct
      by_cases isNames : key = "Names"
      · subst isNames
        have none : members.lookup "Names" = none := lookup_eq_none_of_notMem fresh
        have labels' : members.lookup "Labels" = List.lookup "Labels" (("Names", v) :: members) :=
          (lookup_cons_of_ne (by decide) v members).symm
        have rest := ih apart (by rw [none]; exact fun _ mem => by cases mem)
          (by rw [labels']; exact labels) ⟨namesOf v⟩
        rw [none] at rest
        rw [List.lookup_cons_self]
        exact .known rfl ((reads_names (names v List.lookup_cons_self)).map _) rest
      · rw [lookup_cons_of_ne isNames] at names ⊢
        by_cases isLabels : key = "Labels"
        · subst isLabels
          have none : members.lookup "Labels" = none := lookup_eq_none_of_notMem fresh
          have rest := ih apart names (by rw [none]; exact fun _ mem => by cases mem) s
          obtain ⟨read, reads⟩ := reads_labels (labels v List.lookup_cons_self)
          exact .known rfl (reads.map _) rest
        · rw [lookup_cons_of_ne isLabels] at labels
          exact .skipped (summaryMember_other isNames isLabels) (ih apart names labels s)

theorem Container.Regular.reads {k : Container} (regular : k.Regular) :
    Document.summary.Reads k.summary k.listed := by
  obtain ⟨members, object, distinct⟩ := regular.object
  have names := regular.names
  have labels := regular.labels
  rw [object] at names labels
  have steps := summary_steps distinct names labels ⟨none⟩
  have read : k.listed = ⟨((members.lookup "Names").map namesOf).getD none⟩ := by
    rw [Container.listed, object, Value.get?]
    cases members.lookup "Names" <;> rfl
  rw [read, object]
  exact Reader.reads_object steps

/-! ## Lists -/

/-- A daemon whose list of containers is its own, and is as it should be. -/
structure Daemon.Regular (d : Daemon) : Prop where
  lists : d.responses.lookup .list = none
  containers : ∀ k ∈ d.containers, k.Regular

theorem wholeItems_map {ks : List Container} (regular : ∀ k ∈ ks, k.Regular) :
    Json.WholeItems (ks.map (·.summary)) := by
  induction ks with
  | nil => trivial
  | cons k ks ih =>
      have others := ih fun k mem => regular k (List.mem_cons_of_mem _ mem)
      exact ⟨(regular k List.mem_cons_self).whole, others⟩

/-- A daemon lists the containers that satisfy all filters, in its own order. -/
theorem list_matching {client : Client} (regular : client.daemon.Regular) (labels : List String)
    (w : World) (t : Trace) :
    client.list labels w t = (.ok ((client.daemon.matching labels).map Container.listed),
      t.asked [.list labels]) := by
  have matching : ∀ k ∈ client.daemon.matching labels, k.Regular := fun k mem =>
    regular.containers k (List.mem_filter.mp mem).1
  have answer : client.daemon.answer (.list labels) =
      Daemon.reply 200 (.array ((client.daemon.matching labels).map (·.summary))) := by
    rw [Daemon.answer, Request.topic, regular.lists]
    rfl
  have read : (client.daemon.answer (.list labels)).read Document.summaries =
      .ok ((client.daemon.matching labels).map Container.listed) := by
    rw [answer]
    exact read_reply (wholeItems_map matching)
      (Reader.reads_list fun k mem => (matching k mem).reads)
  rw [Client.list, askFor]
  refine (Act.bind_ok rfl).trans ?_
  show (((client.daemon.answer (.list labels)).read _).mapError _, _) = _
  rw [read]
  rfl

end ComposeSite.Docker
