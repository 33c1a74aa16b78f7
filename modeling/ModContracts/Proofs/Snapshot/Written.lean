import ModContracts.Snapshot
import ModContracts.Proofs.Json.Records
import ModContracts.Proofs.Snapshot.Preorder

/-!
# How snapshots are written

The JSON data that stand for a snapshot: every record is an object with its fields in any order, of which
those that have their default may be left out.

* `ValueSpec.WrittenAs`, `AttachmentSpec.WrittenAs`, `DeclSpec.WrittenAs`, `Snapshot.WrittenAs` — what
  is written for a value, an annotation, a declaration and a snapshot;
* `Snapshot.Distinct` — no table of a snapshot repeats a key;
* `Snapshot.Distinct.exists_writtenAs` — every snapshot without repeated keys can be written.
-/

namespace ModContracts

open Json

/-! ## Locations -/

/-- The fields of a location. -/
def Location.fields (l : Location) : List Field :=
  [⟨"file", StringOf l.file, False⟩,
    ⟨"start", OffsetOf l.start, False⟩,
    ⟨"end", OffsetOf l.stop, False⟩]

/-- A location in JSON. -/
def Location.WrittenAs (l : Location) : Datum → Prop :=
  ObjectOf l.fields

theorem Location.exists_writtenAs (l : Location) : ∃ d, l.WrittenAs d :=
  exists_objectOf (by simp [fields]) (by simp [fields, StringOf, OffsetOf])

/-! ## Values and annotations -/

/-- The fields of an annotation, given what may be written for its values. -/
def attachmentFields (type : String) (values : Datum → Prop) (noValues : Prop)
    (location? : Option Location) (valueLocations : Keyed String Location) : List Field :=
  [⟨"type", StringOf type, False⟩,
    ⟨"values", values, noValues⟩,
    ⟨"location", OptionalOf Location.WrittenAs location?, location? = none⟩,
    ⟨"value_locations", TableOf Location.WrittenAs valueLocations, valueLocations = []⟩]

namespace ValueSpec

mutual

/-- A value in JSON: the word, the number, the string or the list itself, and objects of one member for
class literals and annotations. -/
def WrittenAs : ValueSpec → Datum → Prop
  | .bool b, d => d = .bool b
  | .int i, d => d = .signed i
  | .str text, d => d = .str text
  | .classLiteral name, d => d = .obj [("class", .str name)]
  | .nested type values location? valueLocations, d =>
    ∃ a, d = .obj [("annotation", a)] ∧
      ObjectOf (attachmentFields type (InObject (EntriesWrittenAs values)) (values = []) location?
        valueLocations) a
  | .list items, d => InList (ItemsWrittenAs items) d

/-- The items of a list in JSON. -/
def ItemsWrittenAs : List ValueSpec → List Datum → Prop
  | [], ds => ds = []
  | spec :: rest, ds => ∃ d es, WrittenAs spec d ∧ ItemsWrittenAs rest es ∧ ds = d :: es

/-- The values of an annotation in JSON, under their names and in their order. -/
def EntriesWrittenAs : List (String × ValueSpec) → List (String × Datum) → Prop
  | [], ms => ms = []
  | (name, spec) :: rest, ms =>
    ∃ d es, WrittenAs spec d ∧ EntriesWrittenAs rest es ∧ ms = (name, d) :: es

end

theorem itemsWrittenAs_eq (items : List ValueSpec) :
    ItemsWrittenAs items = List.Forall₂ WrittenAs items := by
  funext ds
  induction items generalizing ds with
  | nil => simp [ItemsWrittenAs]
  | cons spec rest ih => simp [ItemsWrittenAs, ih, List.forall₂_cons_left_iff]

theorem entriesWrittenAs_eq (values : List (String × ValueSpec)) :
    EntriesWrittenAs values = List.Forall₂ (fun e m => m.1 = e.1 ∧ WrittenAs e.2 m.2) values := by
  funext ms
  induction values generalizing ms with
  | nil => simp [EntriesWrittenAs]
  | cons e rest ih => simp [EntriesWrittenAs, ih, List.forall₂_cons_left_iff]

end ValueSpec

/-- An annotation in JSON. -/
def AttachmentSpec.WrittenAs (spec : AttachmentSpec) : Datum → Prop :=
  ObjectOf (attachmentFields spec.type (TableOf ValueSpec.WrittenAs spec.values) (spec.values = [])
    spec.location? spec.valueLocations)

namespace ValueSpec

theorem writtenAs_nested_iff {type : String} {values : List (String × ValueSpec)}
    {location? : Option Location} {valueLocations : Keyed String Location} {d : Datum} :
    (nested type values location? valueLocations).WrittenAs d ↔
      ∃ a, d = .obj [("annotation", a)] ∧
        AttachmentSpec.WrittenAs ⟨type, values, location?, valueLocations⟩ a := by
  rw [WrittenAs, entriesWrittenAs_eq]
  rfl

theorem writtenAs_list_iff {items : List ValueSpec} {d : Datum} :
    (list items).WrittenAs d ↔ ListOf WrittenAs items d := by
  rw [WrittenAs, itemsWrittenAs_eq, ListOf]

end ValueSpec

/-! ## Types, declarations and snapshots -/

/-- Names in JSON. -/
def NamesOf : List String → Datum → Prop :=
  ListOf StringOf

/-- A library type in JSON. -/
def TypeSpec.WrittenAs (spec : TypeSpec) : Datum → Prop :=
  ObjectOf [⟨"name", StringOf spec.name, False⟩,
    ⟨"supertypes", NamesOf spec.supertypes, spec.supertypes = []⟩]

namespace DeclSpec

/-- The fields of a declaration, given what may be written for its members. -/
def fieldsWith (members : Datum → Prop) (spec : DeclSpec) : List Field :=
  [⟨"kind", StringOf spec.kind.keyword, False⟩,
    ⟨"name", StringOf spec.name, False⟩,
    ⟨"modifiers", ListOf (fun m => StringOf m.keyword) spec.modifiers, spec.modifiers = []⟩,
    ⟨"supertypes", NamesOf spec.supertypes, spec.supertypes = []⟩,
    ⟨"type", OptionalOf StringOf spec.type?, spec.type? = none⟩,
    ⟨"parameters", NamesOf spec.parameters, spec.parameters = []⟩,
    ⟨"returns", OptionalOf StringOf spec.returns?, spec.returns? = none⟩,
    ⟨"annotations", ListOf AttachmentSpec.WrittenAs spec.attachments, spec.attachments = []⟩,
    ⟨"members", members, spec.members = []⟩,
    ⟨"location", OptionalOf Location.WrittenAs spec.location?, spec.location? = none⟩]

mutual

/-- A declaration in JSON, with everything inside it. -/
def WrittenAs : DeclSpec → Datum → Prop
  | ⟨kind, name, modifiers, supertypes, type?, parameters, returns?, attachments, members,
      location?⟩, d =>
    ObjectOf (fieldsWith (InList (AllWrittenAs members)) ⟨kind, name, modifiers, supertypes, type?,
      parameters, returns?, attachments, members, location?⟩) d

/-- Declarations beside each other in JSON. -/
def AllWrittenAs : List DeclSpec → List Datum → Prop
  | [], ds => ds = []
  | spec :: rest, ds => ∃ d es, WrittenAs spec d ∧ AllWrittenAs rest es ∧ ds = d :: es

end

theorem allWrittenAs_eq (specs : List DeclSpec) :
    AllWrittenAs specs = List.Forall₂ WrittenAs specs := by
  funext ds
  induction specs generalizing ds with
  | nil => simp [AllWrittenAs]
  | cons spec rest ih => simp [AllWrittenAs, ih, List.forall₂_cons_left_iff]

/-- The fields of a declaration. -/
def fields (spec : DeclSpec) : List Field :=
  spec.fieldsWith (ListOf WrittenAs spec.members)

theorem writtenAs_eq (spec : DeclSpec) : spec.WrittenAs = ObjectOf spec.fields := by
  cases spec
  funext d
  rw [WrittenAs, allWrittenAs_eq]
  rfl

end DeclSpec

/-- A snapshot in JSON. -/
def Snapshot.WrittenAs (s : Snapshot) : Datum → Prop :=
  ObjectOf [⟨"types", ListOf TypeSpec.WrittenAs s.types, s.types = []⟩,
    ⟨"declarations", ListOf DeclSpec.WrittenAs s.declarations, s.declarations = []⟩]

/-! ## Every snapshot can be written -/

/-- No annotation in a value gives two values of one name, nor two locations. -/
inductive ValueSpec.Distinct : ValueSpec → Prop where
  | bool {b} : Distinct (.bool b)
  | int {i} : Distinct (.int i)
  | str {text} : Distinct (.str text)
  | classLiteral {name} : Distinct (.classLiteral name)
  | nested {type values location? valueLocations} (names : (values.map Prod.fst).Nodup)
      (each : ∀ e ∈ values, Distinct e.2) (locations : (valueLocations.map Prod.fst).Nodup) :
      Distinct (.nested type values location? valueLocations)
  | list {items} (each : ∀ spec ∈ items, Distinct spec) : Distinct (.list items)

/-- An annotation gives no two values of one name, nor two locations, on any level. -/
structure AttachmentSpec.Distinct (spec : AttachmentSpec) : Prop where
  names : (spec.values.map Prod.fst).Nodup
  each : ∀ e ∈ spec.values, e.2.Distinct
  locations : (spec.valueLocations.map Prod.fst).Nodup

/-- No annotation of a snapshot gives two values of one name, nor two locations. -/
def Snapshot.Distinct (s : Snapshot) : Prop :=
  ∀ n ∈ s.nodes, ∀ spec ∈ n.spec.attachments, spec.Distinct

theorem exists_namesOf (names : List String) : ∃ d, NamesOf names d :=
  exists_listOf fun name _ => ⟨.str name, rfl⟩

theorem exists_stringOf (text : String) : ∃ d, StringOf text d :=
  ⟨.str text, rfl⟩

theorem exists_attachmentFields {type : String} {values : Datum → Prop} {noValues : Prop}
    {location? : Option Location} {valueLocations : Keyed String Location} (h : ∃ d, values d)
    (hlocations : (valueLocations.map Prod.fst).Nodup) :
    ∃ d, ObjectOf (attachmentFields type values noValues location? valueLocations) d := by
  refine exists_objectOf (by simp [attachmentFields]) ?_
  simp only [attachmentFields, List.forall_mem_cons]
  exact ⟨exists_stringOf type, h, exists_optionalOf Location.exists_writtenAs,
    exists_tableOf hlocations fun e _ => e.2.exists_writtenAs, by simp⟩

theorem ValueSpec.Distinct.exists_writtenAs {spec : ValueSpec} (h : spec.Distinct) :
    ∃ d, spec.WrittenAs d := by
  induction h with
  | bool => exact ⟨_, rfl⟩
  | int => exact ⟨_, rfl⟩
  | str => exact ⟨_, rfl⟩
  | classLiteral => exact ⟨_, rfl⟩
  | nested names _ locations ih =>
    obtain ⟨a, ha⟩ := exists_attachmentFields (exists_tableOf names ih) locations
    exact ⟨_, writtenAs_nested_iff.2 ⟨a, rfl, ha⟩⟩
  | list _ ih =>
    obtain ⟨d, hd⟩ := exists_listOf ih
    exact ⟨d, writtenAs_list_iff.2 hd⟩

theorem AttachmentSpec.Distinct.exists_writtenAs {spec : AttachmentSpec} (h : spec.Distinct) :
    ∃ d, spec.WrittenAs d :=
  exists_attachmentFields (exists_tableOf h.names fun e he => (h.each e he).exists_writtenAs)
    h.locations

theorem TypeSpec.exists_writtenAs (spec : TypeSpec) : ∃ d, spec.WrittenAs d := by
  refine exists_objectOf (by simp) ?_
  simp only [List.forall_mem_cons]
  exact ⟨exists_stringOf spec.name, exists_namesOf spec.supertypes, by simp⟩

theorem DeclSpec.exists_listOf_writtenAs {specs : List DeclSpec} {first : Nat} {parent? : Option Nat}
    (h : ∀ n ∈ nodesOfAll first parent? specs, ∀ spec ∈ n.spec.attachments, spec.Distinct) :
    ∀ spec ∈ specs, ∃ d, spec.WrittenAs d := by
  induction specs using forest_induction generalizing first parent? with
  | nil => simp
  | cons spec rest ihMembers ihRest =>
    rw [nodesOfAll_cons, List.forall_mem_cons, List.forall_mem_append] at h
    rw [List.forall_mem_cons]
    refine ⟨?_, ihRest h.2.2⟩
    rw [writtenAs_eq]
    refine exists_objectOf (by simp [fields, fieldsWith]) ?_
    simp only [fields, fieldsWith, List.forall_mem_cons]
    exact ⟨exists_stringOf _, exists_stringOf _, exists_listOf fun m _ => exists_stringOf m.keyword,
      exists_namesOf _, exists_optionalOf exists_stringOf, exists_namesOf _,
      exists_optionalOf exists_stringOf,
      exists_listOf fun a ha => (h.1 a ha).exists_writtenAs, exists_listOf (ihMembers h.2.1),
      exists_optionalOf Location.exists_writtenAs, by simp⟩

theorem Snapshot.Distinct.exists_writtenAs {s : Snapshot} (h : s.Distinct) : ∃ d, s.WrittenAs d := by
  refine exists_objectOf (by simp) ?_
  simp only [List.forall_mem_cons]
  exact ⟨exists_listOf fun spec _ => spec.exists_writtenAs,
    exists_listOf (DeclSpec.exists_listOf_writtenAs h), by simp⟩

end ModContracts
