/-
# ComposeSite.Proofs.Context.Document -- a written context is read back

A context is written setting by setting, and some settings are left out.  Each of them is
left out only where it has the value that reading gives to a setting that is not there
(`default?_of_omitted`); every other one is read from what it is written as (`reads_value`).
So the settings that are read, and the defaults of the others, are those of the context
(`tells_written`), which is therefore built again (`reads_toJson`).
-/
import ComposeSite.Context.Document
import ComposeSite.Proofs.Json.Reading

set_option autoImplicit false

namespace ComposeSite.Context

open Json (Fault Node Reader Value itemValues memberValues)

/-! ## Settings -/

theorem Field.mem_all (f : Field) : f ∈ Field.all := by cases f <;> decide

theorem Field.ofKey?_key (f : Field) : Field.ofKey? f.key = some f := by cases f <;> rfl

theorem Field.key_injective : Function.Injective Field.key := by
  intro f g same
  have read := Field.ofKey?_key f
  rw [same, Field.ofKey?_key] at read
  exact (Option.some.inj read).symm

/-- A setting that is left out has the value of one that is not given. -/
theorem default?_of_omitted {c : Context} {f : Field} (left : c.omitted f = true) :
    f.default? = some (c.get f) := by
  cases f <;> simp_all [omitted, Field.default?, get]

theorem HostKind.ofName?_name (kind : HostKind) : HostKind.ofName? kind.name = some kind := by
  cases kind <;> rfl

theorem reads_kind (kind : HostKind) : Reader.Reads readKind (.text kind.name) kind := by
  intro n spelled
  cases n.plain spelled with
  | text name start stop =>
      simp only [readKind, bind, Except.bind, HostKind.ofName?_name]
      rfl

/-- The written value of a setting is read as that value. -/
theorem reads_value (s : Shape) (v : s.Carrier) : Reader.Reads s.ofNode (s.toJson v) v := by
  cases s with
  | text => exact Reader.reads_text v
  | flag => exact Reader.reads_bool v
  | port =>
      intro n spelled
      have small : v.toNat < 65536 := v.toNat_lt
      have inBounds : Int.ofNat v.toNat ≤ 65535 := by
        simp only [Int.ofNat_eq_natCast]
        omega
      have read := Reader.reads_nat (by omega) inBounds "u16" n spelled
      simp only [Shape.ofNode, read, Except.map]
      exact congrArg Except.ok UInt16.ofNat_toNat
  | optionalText =>
      cases v with
      | none => exact Reader.reads_null Reader.text
      | some v => exact (Reader.reads_text v).optional (by intro same; cases same)
  | texts =>
      have each : (Reader.list Reader.text).Reads (.array (v.map Value.text)) (v.map id) :=
        Reader.reads_list fun s _ => Reader.reads_text s
      rwa [List.map_id] at each
  | hostKind => exact reads_kind v

theorem whole_value (s : Shape) (v : s.Carrier) : (s.toJson v).Whole := by
  cases s with
  | text | flag | hostKind => trivial
  | port => exact ⟨Int.ofNat (UInt16.toNat v), rfl⟩
  | optionalText => cases v <;> trivial
  | texts =>
      show Json.WholeItems (List.map Value.text v)
      induction (v : List String) with
      | nil => trivial
      | cons s ss ih => exact ⟨trivial, ih⟩

/-! ## Drafts -/

namespace Draft

theorem put_same (d : Draft) (f : Field) (v : f.shape.Carrier) : d.put f v f = some v := by
  simp [put]

theorem put_other (d : Draft) {f g : Field} (v : f.shape.Carrier) (other : f ≠ g) :
    d.put f v g = d g := by
  simp [put, other]

/-- A draft and the defaults say of every setting what a context has. -/
def Tells (d : Draft) (c : Context) : Prop := ∀ f, d.value? f = some (c.get f)

theorem Tells.build_eq {d : Draft} {c : Context} (tells : d.Tells c) : d.build = .ok c := by
  simp only [build, tells _]
  rfl

end Draft

/-- The settings of a context are given one after the other. -/
def given (c : Context) (fs : List Field) (d : Draft) : Draft :=
  fs.foldl (fun d f => d.put f (c.get f)) d

theorem given_mem {c : Context} {fs : List Field} {f : Field} (d : Draft)
    (among : f ∈ fs ∨ d f = some (c.get f)) : c.given fs d f = some (c.get f) := by
  induction fs generalizing d with
  | nil =>
      rcases among with among | already
      · cases among
      · exact already
  | cons g gs ih =>
      refine ih _ ?_
      by_cases same : g = f
      · subst same
        exact .inr (d.put_same g _)
      · refine among.imp (fun mem => ?_) (d.put_other _ same).trans
        exact (List.mem_cons.mp mem).resolve_left (Ne.symm same)

theorem given_notMem {c : Context} {fs : List Field} {f : Field} (d : Draft)
    (fresh : f ∉ fs) : c.given fs d f = d f := by
  induction fs generalizing d with
  | nil => rfl
  | cons g gs ih =>
      obtain ⟨other, fresh⟩ := List.ne_and_not_mem_of_not_mem_cons fresh
      exact (ih _ fresh).trans (d.put_other _ (Ne.symm other))

/-- The settings that are written. -/
def written (c : Context) : List Field := Field.all.filter fun f => !c.omitted f

theorem mem_written {c : Context} {f : Field} : f ∈ c.written ↔ c.omitted f = false := by
  simp [written, Field.mem_all]

/-- What is written, together with the defaults of what is not, is the context. -/
theorem tells_written (c : Context) : (c.given c.written .empty).Tells c := by
  intro f
  rw [Draft.value?]
  cases left : c.omitted f with
  | false => rw [given_mem _ (.inl (mem_written.mpr left))]; rfl
  | true =>
      have fresh : f ∉ c.written := by simp [mem_written, left]
      rw [given_notMem _ fresh, default?_of_omitted left]
      rfl

/-! ## Documents -/

/-- The members that settings are written as. -/
def membersOf (c : Context) (fs : List Field) : List (String × Value) :=
  fs.map fun f => (f.key, Shape.toJson f.shape (c.get f))

theorem toJson_eq (c : Context) : c.toJson = .object (c.membersOf c.written) := rfl

/-- The written form has a member for a setting just if the setting is not left out. -/
theorem get?_toJson (c : Context) (f : Field) :
    c.toJson.get? f.key = if c.omitted f then none else some (Shape.toJson f.shape (c.get f)) := by
  have lookup (fs : List Field) : (c.membersOf fs).lookup f.key =
      if f ∈ fs then some (Shape.toJson f.shape (c.get f)) else none := by
    induction fs with
    | nil => rfl
    | cons g gs ih =>
        rw [membersOf, List.map_cons, List.lookup_cons]
        by_cases same : g = f
        · subst same
          simp
        · have differs : (f.key == g.key) = false :=
            beq_false_of_ne fun keys => same (Field.key_injective keys).symm
          rw [differs]
          simpa [membersOf, Ne.symm same] using ih
  rw [toJson_eq, Value.get?, lookup]
  cases left : c.omitted f <;> simp [mem_written, left]

theorem left_out (c : Context) (f : Field) : c.toJson.get? f.key = none ↔ c.omitted f = true := by
  rw [get?_toJson]
  cases c.omitted f <;> simp

theorem toJson_whole (c : Context) : c.toJson.Whole := by
  have members (fs : List Field) : Json.WholeMembers (c.membersOf fs) := by
    induction fs with
    | nil => trivial
    | cons f fs ih => exact ⟨whole_value f.shape (c.get f), ih⟩
  exact members c.written

/-- Members that spell settings are read into a draft one by one. -/
theorem readMembers_settings (c : Context) (fs : List Field) (distinct : fs.Nodup) (d : Draft)
    (fresh : ∀ f ∈ fs, d.has f = false)
    {nodes : List (Except Fault String × Position × Node)} (stop : Position)
    (spelled : memberValues nodes = some (c.membersOf fs)) :
    readMembers (.closed stop) d nodes = finish (c.given fs d) stop := by
  induction fs generalizing d nodes with
  | nil =>
      rw [Json.memberValues_eq_nil spelled]
      rfl
  | cons f fs ih =>
      obtain ⟨place, n, more, rfl, first, later⟩ := Json.memberValues_eq_cons spelled
      obtain ⟨once, distinct⟩ := List.nodup_cons.mp distinct
      have isNew : d.has f = false := fresh f List.mem_cons_self
      have read : Shape.ofNode f.shape n = .ok (c.get f) := reads_value f.shape (c.get f) n first
      have rest := ih distinct (d.put f (c.get f))
        (fun g mem => by
          have other : f ≠ g := by
            rintro rfl
            exact once mem
          rw [Draft.has, d.put_other _ other]
          exact fresh g (List.mem_cons_of_mem f mem)) later
      rw [readMembers]
      simp only [bind, Except.bind, Field.ofKey?_key, isNew, read, Bool.false_eq_true, if_false]
      exact rest

/-- Whatever spells the written form of a context is read as the context. -/
theorem reads_toJson (c : Context) : Reader.Reads ofNode c.toJson c := by
  intro n spelled
  cases n.plain spelled with
  | object start stop spelled =>
      have distinct : c.written.Nodup := List.Pairwise.filter _ (by decide)
      rw [ofNode, readMembers_settings c c.written distinct .empty (fun _ _ => rfl) stop spelled,
        finish, (tells_written c).build_eq]

theorem ofJson_toJson (c : Context) : ofJson c.toJson = .ok c :=
  reads_toJson c _ (Json.toNode_toValue? c.toJson)

theorem ofText_render (c : Context) : ofText c.toJson.render = .ok c := by
  obtain ⟨n, whole, spelled⟩ := Json.ofChars_chars (toJson_whole c)
  rw [ofText, Value.render, String.toList_ofList, whole]
  simp only [reads_toJson c n spelled]

/-- A text as it is written again after it has been read as a context. -/
def rewritten (s : String) : Except Failure String := (ofText s).map fun c => c.toJson.render

/-- **A context survives being written and read back**, as a document and as a text, although
five settings are left out of the written form when they are empty. So whatever text is read as
a context, with settings that are missing and names that are not known, is written as a text
that is read as the same context and written in the same way again. -/
theorem written_context_read_back :
    (∀ c : Context, ofJson c.toJson = .ok c ∧ ofText c.toJson.render = .ok c ∧
      (c.toJson.get? "ssh-hostname" = none ↔ c.sshHostname = "") ∧
      (c.toJson.get? "ssh-key" = none ↔ c.sshKey = "") ∧
      (c.toJson.get? "profile" = none ↔ c.profile = none) ∧
      (c.toJson.get? "env-file" = none ↔ c.envFiles = []) ∧
      (c.toJson.get? "compose-file" = none ↔ c.composeFiles = []) ∧
      ∀ f, f ∉ [Field.sshHostname, .sshKey, .profile, .envFiles, .composeFiles] →
        c.toJson.get? f.key = some (Shape.toJson f.shape (c.get f))) ∧
    (∀ (v : Value) (c : Context), ofJson v = .ok c → ofJson c.toJson = .ok c) ∧
    ∀ (s : String) (c : Context), ofText s = .ok c →
      ofText c.toJson.render = .ok c ∧ rewritten s = .ok c.toJson.render ∧
        rewritten c.toJson.render = .ok c.toJson.render := by
  have again (c : Context) : rewritten c.toJson.render = .ok c.toJson.render := by
    rw [rewritten, ofText_render]
    rfl
  refine ⟨fun c => ⟨ofJson_toJson c, ofText_render c, ?_, ?_, ?_, ?_, ?_, fun f present => ?_⟩,
    fun _ c _ => ofJson_toJson c, fun s c read => ⟨ofText_render c, ?_, again c⟩⟩
  · exact (left_out c .sshHostname).trans String.isEmpty_iff
  · exact (left_out c .sshKey).trans String.isEmpty_iff
  · exact (left_out c .profile).trans Option.isNone_iff_eq_none
  · exact (left_out c .envFiles).trans List.isEmpty_iff
  · exact (left_out c .composeFiles).trans List.isEmpty_iff
  · have kept : c.omitted f = false := by
      cases f <;> simp at present <;> rfl
    rw [get?_toJson, kept]
    rfl
  · rw [rewritten, read]
    rfl

/-- A text of three settings in no order, with one that is not known. -/
def sparseText : String :=
  (Value.object [("labels", .object [("tier", .nat 2)]), ("profile", .text ""),
    ("type", .text "remote"), ("name", .text "museum")]).render

/-- What is missing from it does not change when it is written and read again. -/
theorem sparse_text_read_back :
    ∃ c, ofText sparseText = .ok c ∧ c.profile = some "" ∧ c.sshPort = 22 ∧
      ofText c.toJson.render = .ok c ∧ rewritten c.toJson.render = .ok c.toJson.render := by
  have settings : (ofText sparseText).toOption.map (fun c => (c.profile, c.sshPort)) =
      some (some "", 22) := by decide +kernel
  cases read : ofText sparseText with
  | error f => simp [read, Except.toOption] at settings
  | ok c =>
      simp only [read, Except.toOption, Option.map_some, Option.some.injEq, Prod.mk.injEq]
        at settings
      obtain ⟨back, -, again⟩ := written_context_read_back.2.2 sparseText c read
      exact ⟨c, rfl, settings.1, settings.2, back, again⟩

end ComposeSite.Context
