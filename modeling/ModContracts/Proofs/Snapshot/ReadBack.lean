import ModContracts.Snapshot.Json
import ModContracts.Proofs.Snapshot.Written

/-!
# What is written is read back

Every reader gives back what was written, in each of the forms it may be written in. A record is read
field by field, so each record comes with itself as it is known after some of its fields: `only`.

* `readLocation_eq_ok`, `readAttachment_eq_ok`, `readType_eq_ok`, `readDecl_eq_ok`,
  `readSnapshot_eq_ok` — the records; `readValueForm_eq_some` — values, each as the form it has;
* `ReadsBack`, `readsBack` — values and annotations contain each other, and are read back together by
  induction on the room for nesting;
* `Snapshot.Expressible`, `Snapshot.expressible_of_distinct` — every snapshot without repeated keys can
  be written as a text, and is read back from each of its texts.
-/

namespace ModContracts

open Json

variable {n : Node} {d : Datum} {room : Nat}

/-! ## Locations -/

/-- A location of which only some fields are known. -/
def Location.only (l : Location) (seen : List String) : Location where
  file := if "file" ∈ seen then l.file else ""
  start := if "start" ∈ seen then l.start else 0
  stop := if "end" ∈ seen then l.stop else 0

theorem readLocation_eq_ok {l : Location} (hn : n.Holds d) (hd : l.WrittenAs d)
    (hdepth : d.depth ≤ room) : readLocation room n = .ok l := by
  rw [readLocation, if_neg (hd.room_ne_zero hdepth)]
  refine FieldsRead.readRecord_eq_ok (?_ : FieldsRead _ _ _ l.only room _ _) hn hd hdepth
  exact {
    start := by simp [Location.only]
    known := by simp [Location.fields, locationFormat]
    required := by simp [Location.fields, locationFormat]
    set := by
      simp only [Location.fields, List.forall_mem_cons]
      refine ⟨fun seen n d hn hd _ => ?_, fun seen n d hn hd _ => ?_, fun seen n d hn hd _ => ?_,
        by simp⟩
      · simp [readString_eq_ok hn hd, Location.only]
      · simp [readOffset_eq_ok hn hd, Location.only]
      · simp [readOffset_eq_ok hn hd, Location.only]
    whole := by simp +contextual [Location.fields, Location.only] }

/-- A location is never written as `null`. -/
theorem Location.not_writtenAs_null (l : Location) : ¬ l.WrittenAs .null := by
  rintro ⟨ms, h, -⟩
  cases h

/-! ## Values and annotations -/

/-- An annotation of which only some fields are known. -/
def AttachmentSpec.only (spec : AttachmentSpec) (seen : List String) : AttachmentSpec where
  type := if "type" ∈ seen then spec.type else ""
  values := if "values" ∈ seen then spec.values else []
  location? := if "location" ∈ seen then spec.location? else none
  valueLocations := if "value_locations" ∈ seen then spec.valueLocations else []

/-- A value is only read as a signed integer, whichever way its numeral was read. -/
theorem integerForm?_eq_some {numeral : Numeral} {i : Int64}
    (h : numeral.read = .ok (.ofInt64 i)) : integerForm? numeral = some i := by
  rw [integerForm?, h, Number.ofInt64]
  by_cases hneg : i.toInt < 0
  · rw [if_pos hneg]
  · have hlt := i.toInt_lt
    have hlt' : i.toInt.toNat < 2 ^ 64 := by omega
    have hvalue : (UInt64.ofNat i.toInt.toNat).toNat = i.toInt.toNat :=
      UInt64.toNat_ofNat_of_lt hlt'
    have hback : Int64.ofNat i.toInt.toNat = i := by
      rw [← Int64.ofInt_eq_ofNat, Int.toNat_of_nonneg (by omega), Int64.ofInt_toInt]
    have hin : i.toInt.toNat < Nat.pow 2 63 := by
      rw [Nat.pow_eq]
      omega
    simp only [if_neg hneg, hvalue, if_pos hin, hback]

/-- With so much room, values and annotations are read back. -/
structure ReadsBack (room : Nat) : Prop where
  value : ∀ {n d} {spec : ValueSpec}, n.Holds d → spec.WrittenAs d → d.depth ≤ room →
    readValueForm room n = some spec
  attachment : ∀ {n d} {spec : AttachmentSpec}, n.Holds d → spec.WrittenAs d → d.depth ≤ room →
    readAttachment room n = .ok spec

theorem mapM_eq_some {α β : Type} {f : α → Option β} {xs : List α} {ys : List β}
    (h : List.Forall₂ (fun x y => f x = some y) xs ys) : xs.mapM f = some ys := by
  induction h with
  | nil => rfl
  | cons hfirst _ ih => simp [hfirst, ih]

/-- The only member of an object, and nothing under any other name. -/
theorem onlyMember?_singleton {name : String} {ns : List (Quoted × Node)} {d : Datum}
    (h : List.Forall₂ Node.HoldsMember ns [(name, d)]) :
    ∃ n, n.Holds d ∧ onlyMember? name ns = some n ∧
      ∀ other, other ≠ name → onlyMember? other ns = none := by
  cases h with
  | @cons m _ _ _ hm hrest =>
    cases hrest
    obtain ⟨key, n⟩ := m
    obtain ⟨hkey, hn⟩ := hm
    refine ⟨n, hn, ?_, fun other hother => ?_⟩
    · simp_all [onlyMember?, Except.toOption]
    · simp_all [onlyMember?, Except.toOption, hother.symm]

/-- The forms are tried in order, and none before the right one fits: words, numbers, strings and lists are
told apart by their trees, and the two kinds of object by their only key. -/
theorem readValueForm_eq_some (h : ∀ inner < room, ReadsBack inner) {spec : ValueSpec}
    (hn : n.Holds d) (hd : spec.WrittenAs d) (hdepth : d.depth ≤ room) :
    readValueForm room n = some spec := by
  cases spec with
  | bool b =>
    obtain rfl : d = .bool b := hd
    cases hn with
    | bool => simp [readValueForm]
  | int i =>
    obtain rfl : d = .signed i := hd
    cases hn with
    | signed hread => simp [readValueForm, integerForm?_eq_some hread]
  | str text =>
    obtain rfl : d = .str text := hd
    cases hn with
    | str hread => simp [readValueForm, hread, Except.toOption]
  | classLiteral name =>
    obtain rfl : d = .obj [("class", .str name)] := hd
    obtain ⟨ns, rfl, hns⟩ := hn.members
    obtain ⟨m, hm, honly, -⟩ := onlyMember?_singleton hns
    cases hm with
    | str hread =>
      obtain ⟨hroom, -⟩ := Datum.depth_obj_le_iff.1 hdepth
      obtain ⟨room, rfl⟩ := Nat.exists_eq_add_one_of_ne_zero (Nat.ne_of_gt hroom)
      simp [readValueForm, honly, hread, Except.toOption]
  | nested type values location? valueLocations =>
    obtain ⟨a, rfl, ha⟩ := ValueSpec.writtenAs_nested_iff.1 hd
    obtain ⟨ns, rfl, hns⟩ := hn.members
    obtain ⟨m, hm, honly, hother⟩ := onlyMember?_singleton hns
    obtain ⟨hroom, hdepths⟩ := Datum.depth_obj_le_iff.1 hdepth
    obtain ⟨room, rfl⟩ := Nat.exists_eq_add_one_of_ne_zero (Nat.ne_of_gt hroom)
    have hclass : onlyMember? "class" ns = none := hother _ (by decide)
    have hattachment := (h room (by omega)).attachment hm ha (by simpa using hdepths)
    simp [readValueForm, hclass, honly, hattachment]
  | list items =>
    obtain ⟨ds, rfl, hds⟩ := ValueSpec.writtenAs_list_iff.1 hd
    obtain ⟨hroom, hdepths⟩ := Datum.depth_arr_le_iff.1 hdepth
    obtain ⟨room, rfl⟩ := Nat.exists_eq_add_one_of_ne_zero (Nat.ne_of_gt hroom)
    cases hn with
    | @arr ns _ hitems =>
      have hread : List.Forall₂ (fun n x => readValueForm room n = some x) ns items := by
        refine (forall₂_comp (forall₂_and_of_forall hitems hdepths) hds.flip).imp ?_
        rintro n x ⟨d, ⟨hn, hle⟩, hx⟩
        exact (h room (by omega)).value hn hx hle
      simp [readValueForm, mapM_eq_some hread]

theorem readAttachment_eq_ok (h : ∀ inner < room, ReadsBack inner) {spec : AttachmentSpec}
    (hn : n.Holds d) (hd : spec.WrittenAs d) (hdepth : d.depth ≤ room) :
    readAttachment room n = .ok spec := by
  obtain ⟨room, rfl⟩ := Nat.exists_eq_add_one_of_ne_zero (hd.room_ne_zero hdepth)
  rw [readAttachment]
  refine FieldsRead.readRecord_eq_ok (?_ : FieldsRead _ _ _ spec.only (room + 1) _ _) hn hd hdepth
  exact {
    start := by simp [AttachmentSpec.only]
    known := by simp [attachmentFields, attachmentFormat]
    required := by simp [attachmentFields, attachmentFormat]
    set := by
      simp only [attachmentFields, List.forall_mem_cons, Nat.add_sub_cancel]
      refine ⟨fun seen n d hn hd _ => ?_, fun seen n d hn hd hdepth => ?_,
        fun seen n d hn hd hdepth => ?_, fun seen n d hn hd hdepth => ?_, by simp⟩
      · simp [readString_eq_ok hn hd, AttachmentSpec.only]
      · obtain ⟨inner, rfl⟩ := Nat.exists_eq_add_one_of_ne_zero (hd.room_ne_zero hdepth)
        dsimp only
        rw [readTable_eq_ok hn hd hdepth]
        · simp [AttachmentSpec.only]
        · intro n d x hn hx hle
          have hcheck : n.check inner = .ok () := hn.check hle
          have hvalue := (h inner (by omega)).value hn hx hle
          simp [hcheck, hvalue, sound, Except.mapError, bind, Except.bind, pure, Except.pure]
      · have hitem (l : Location) (hl : l.WrittenAs d) : readLocation room n = .ok l :=
          readLocation_eq_ok hn hl hdepth
        simp [readOptional_eq_ok hn hd Location.not_writtenAs_null hitem, AttachmentSpec.only]
      · have hitem n d (l : Location) (hn : n.Holds d) (hl : l.WrittenAs d)
            (hdepth : d.depth ≤ room - 1) : readLocation (room - 1) n = .ok l :=
          readLocation_eq_ok hn hl hdepth
        simp [readTable_eq_ok hn hd hdepth hitem, AttachmentSpec.only]
    whole := by
      intro seen hall
      simp only [attachmentFields, List.forall_mem_cons, or_false] at hall
      obtain ⟨htype, hvalues, hlocation, hlocations, -⟩ := hall
      simp only [AttachmentSpec.only, if_pos htype, known_or_default hvalues,
        known_or_default hlocation, known_or_default hlocations] }

/-- Each level of nesting takes one from the room, so less room is left for what is inside. -/
theorem readsBack (room : Nat) : ReadsBack room := by
  induction room using Nat.strongRecOn with
  | ind room ih => exact ⟨readValueForm_eq_some ih, readAttachment_eq_ok ih⟩

/-! ## Types, declarations and snapshots -/

/-- A library type of which only some fields are known. -/
def TypeSpec.only (spec : TypeSpec) (seen : List String) : TypeSpec where
  name := if "name" ∈ seen then spec.name else ""
  supertypes := if "supertypes" ∈ seen then spec.supertypes else []

theorem readNames_eq_ok {names : List String} (hn : n.Holds d) (hd : NamesOf names d)
    (hdepth : d.depth ≤ room) : readList room readString n = .ok names :=
  readList_eq_ok hn hd hdepth fun _ _ _ hn hd _ => readString_eq_ok hn hd

theorem readOptionalName_eq_ok {name? : Option String} (hn : n.Holds d)
    (hd : OptionalOf StringOf name? d) : readOptional readString n = .ok name? :=
  readOptional_eq_ok hn hd (fun _ h => Datum.noConfusion h) fun _ h => readString_eq_ok hn h

theorem readType_eq_ok {spec : TypeSpec} (hn : n.Holds d) (hd : spec.WrittenAs d)
    (hdepth : d.depth ≤ room) : readType room n = .ok spec := by
  rw [readType, if_neg (hd.room_ne_zero hdepth)]
  refine FieldsRead.readRecord_eq_ok (?_ : FieldsRead _ _ _ spec.only room _ _) hn hd hdepth
  exact {
    start := by simp [TypeSpec.only]
    known := by simp [typeFormat]
    required := by simp [typeFormat]
    set := by
      simp only [List.forall_mem_cons]
      refine ⟨fun seen n d hn hd _ => ?_, fun seen n d hn hd hdepth => ?_, by simp⟩
      · simp [readString_eq_ok hn hd, TypeSpec.only]
      · simp [readNames_eq_ok hn hd hdepth, TypeSpec.only]
    whole := by
      intro seen hall
      simp only [List.forall_mem_cons, or_false] at hall
      obtain ⟨hname, hsupertypes, -⟩ := hall
      simp only [TypeSpec.only, if_pos hname, known_or_default hsupertypes] }

/-- A declaration of which only some fields are known. -/
def DeclSpec.only (spec : DeclSpec) (seen : List String) : DeclSpec where
  kind := if "kind" ∈ seen then spec.kind else .classType
  name := if "name" ∈ seen then spec.name else ""
  modifiers := if "modifiers" ∈ seen then spec.modifiers else []
  supertypes := if "supertypes" ∈ seen then spec.supertypes else []
  type? := if "type" ∈ seen then spec.type? else none
  parameters := if "parameters" ∈ seen then spec.parameters else []
  returns? := if "returns" ∈ seen then spec.returns? else none
  attachments := if "annotations" ∈ seen then spec.attachments else []
  members := if "members" ∈ seen then spec.members else []
  location? := if "location" ∈ seen then spec.location? else none

theorem readDecl_eq_ok {spec : DeclSpec} (hn : n.Holds d) (hd : spec.WrittenAs d)
    (hdepth : d.depth ≤ room) : readDecl room n = .ok spec := by
  induction room using Nat.strongRecOn generalizing n d spec with
  | ind room ih =>
    rw [DeclSpec.writtenAs_eq] at hd
    obtain ⟨room, rfl⟩ := Nat.exists_eq_add_one_of_ne_zero (hd.room_ne_zero hdepth)
    rw [readDecl]
    refine FieldsRead.readRecord_eq_ok (?_ : FieldsRead _ _ _ spec.only (room + 1) _ _) hn hd hdepth
    exact {
      start := by simp [DeclSpec.only]
      known := by simp [DeclSpec.fields, DeclSpec.fieldsWith, declFormat]
      required := by simp [DeclSpec.fields, DeclSpec.fieldsWith, declFormat]
      set := by
        simp only [DeclSpec.fields, DeclSpec.fieldsWith, List.forall_mem_cons, Nat.add_sub_cancel]
        refine ⟨fun seen n d hn hd _ => ?kind, fun seen n d hn hd _ => ?name,
          fun seen n d hn hd hdepth => ?modifiers, fun seen n d hn hd hdepth => ?supertypes,
          fun seen n d hn hd _ => ?type, fun seen n d hn hd hdepth => ?parameters,
          fun seen n d hn hd _ => ?returns, fun seen n d hn hd hdepth => ?attachments,
          fun seen n d hn hd hdepth => ?members, fun seen n d hn hd hdepth => ?location, by simp⟩
        case kind =>
          have hread : readKind room n = .ok spec.kind :=
            readKeyword_eq_ok hn hd (Kind.ofKeyword?_keyword spec.kind)
          simp [hread, DeclSpec.only]
        case name => simp [readString_eq_ok hn hd, DeclSpec.only]
        case modifiers =>
          have hitem n d (m : Modifier) (hn : n.Holds d) (hd : StringOf m.keyword d)
              (_ : d.depth ≤ room - 1) : readModifier (room - 1) n = .ok m :=
            readKeyword_eq_ok hn hd (Modifier.ofKeyword?_keyword m)
          simp [readList_eq_ok hn hd hdepth hitem, DeclSpec.only]
        case supertypes => simp [readNames_eq_ok hn hd hdepth, DeclSpec.only]
        case type => simp [readOptionalName_eq_ok hn hd, DeclSpec.only]
        case parameters => simp [readNames_eq_ok hn hd hdepth, DeclSpec.only]
        case returns => simp [readOptionalName_eq_ok hn hd, DeclSpec.only]
        case attachments =>
          have hitem n d (a : AttachmentSpec) (hn : n.Holds d) (hd : a.WrittenAs d)
              (hdepth : d.depth ≤ room - 1) : readAttachment (room - 1) n = .ok a :=
            (readsBack (room - 1)).attachment hn hd hdepth
          simp [readList_eq_ok hn hd hdepth hitem, DeclSpec.only]
        case members =>
          obtain ⟨inner, rfl⟩ := Nat.exists_eq_add_one_of_ne_zero (hd.room_ne_zero hdepth)
          have hitem n d (m : DeclSpec) (hn : n.Holds d) (hd : m.WrittenAs d)
              (hdepth : d.depth ≤ inner + 1 - 1) : readDecl inner n = .ok m :=
            ih inner (by omega) hn hd hdepth
          simp [readList_eq_ok hn hd hdepth hitem, DeclSpec.only]
        case location =>
          have hitem (l : Location) (hl : l.WrittenAs d) : readLocation room n = .ok l :=
            readLocation_eq_ok hn hl hdepth
          simp [readOptional_eq_ok hn hd Location.not_writtenAs_null hitem, DeclSpec.only]
      whole := by
        intro seen hall
        simp only [DeclSpec.fields, DeclSpec.fieldsWith, List.forall_mem_cons, or_false] at hall
        obtain ⟨hkind, hname, hmodifiers, hsupertypes, htype, hparameters, hreturns, hattachments,
          hmembers, hlocation, -⟩ := hall
        simp only [DeclSpec.only, if_pos hkind, if_pos hname, known_or_default hmodifiers,
          known_or_default hsupertypes, known_or_default htype, known_or_default hparameters,
          known_or_default hreturns, known_or_default hattachments, known_or_default hmembers,
          known_or_default hlocation]
        cases spec
        rfl }

/-- A snapshot of which only some fields are known. -/
def Snapshot.only (s : Snapshot) (seen : List String) : Snapshot where
  types := if "types" ∈ seen then s.types else []
  declarations := if "declarations" ∈ seen then s.declarations else []

theorem readSnapshot_eq_ok {s : Snapshot} (hn : n.Holds d) (hd : s.WrittenAs d)
    (hdepth : d.depth ≤ room) : readSnapshot room n = .ok s := by
  rw [readSnapshot, if_neg (hd.room_ne_zero hdepth)]
  refine FieldsRead.readRecord_eq_ok (?_ : FieldsRead _ _ _ s.only room _ _) hn hd hdepth
  exact {
    start := by simp [Snapshot.only]
    known := by simp [snapshotFormat]
    required := by simp [snapshotFormat]
    set := by
      simp only [List.forall_mem_cons]
      refine ⟨fun seen n d hn hd hdepth => ?_, fun seen n d hn hd hdepth => ?_, by simp⟩
      · have hitem n d (spec : TypeSpec) (hn : n.Holds d) (hd : spec.WrittenAs d)
            (hdepth : d.depth ≤ room - 1 - 1) : readType (room - 2) n = .ok spec :=
          readType_eq_ok hn hd hdepth
        simp [readList_eq_ok hn hd hdepth hitem, Snapshot.only]
      · have hitem n d (spec : DeclSpec) (hn : n.Holds d) (hd : spec.WrittenAs d)
            (hdepth : d.depth ≤ room - 1 - 1) : readDecl (room - 2) n = .ok spec :=
          readDecl_eq_ok hn hd hdepth
        simp [readList_eq_ok hn hd hdepth hitem, Snapshot.only]
    whole := by
      intro seen hall
      simp only [List.forall_mem_cons] at hall
      obtain ⟨htypes, hdeclarations, -⟩ := hall
      simp only [Snapshot.only, known_or_default htypes, known_or_default hdeclarations] }

namespace Snapshot

/-- A snapshot is read back from each of its texts that does not nest too deeply. -/
theorem ofJson_of_writtenAs {s : Snapshot} {text : String} (hd : s.WrittenAs d) (ht : d.IsText text)
    (hdepth : d.depth ≤ nestingLimit) : ofJson text = .ok s := by
  obtain ⟨n, rest, hscan, hn, hrest⟩ := Node.exists_ofText ht
  simp [ofJson, hscan, readSnapshot_eq_ok hn hd hdepth, hrest, bind, Except.bind, pure, Except.pure]

/-- JSON expresses the snapshot, and expresses nothing else by the same data. -/
structure Expressible (s : Snapshot) : Prop where
  exists_text : ∃ d text, s.WrittenAs d ∧ d.IsText text
  /-- Whatever the order of the fields, the defaults left out, the blanks and the escapes. -/
  read : ∀ d text, s.WrittenAs d → d.IsText text → d.depth ≤ nestingLimit → ofJson text = .ok s
  unique : ∀ d s', s.WrittenAs d → s'.WrittenAs d → d.depth ≤ nestingLimit → s' = s

/-- Every snapshot without repeated keys is expressible: it has a text, and comes back from each of its
texts as it was. -/
theorem expressible_of_distinct (s : Snapshot) (h : s.Distinct) : s.Expressible where
  exists_text := by
    obtain ⟨d, hd⟩ := h.exists_writtenAs
    obtain ⟨text, ht⟩ := d.exists_isText
    exact ⟨d, text, hd, ht⟩
  read := fun _ _ => ofJson_of_writtenAs
  unique := by
    intro d s' hd hd' hdepth
    obtain ⟨text, ht⟩ := d.exists_isText
    have hread := (ofJson_of_writtenAs hd' ht hdepth).symm.trans (ofJson_of_writtenAs hd ht hdepth)
    exact Except.ok.inj hread

/-- A snapshot with an annotation that has values of every form, one inside the other. -/
def mixedExample : Snapshot where
  types := [{ name := "a.Tag" }]
  declarations := [
    { kind := .classType
      name := "a.Übung \"1\""
      attachments := [
        { type := "a.Tag"
          values := [
            ("z", .list [.classLiteral "a.Tag",
              .nested "a.Tag" [("class", .str "annotation")] none [("class", ⟨"A.java", 3, 5⟩)],
              .list [], .str "class"]),
            ("b", .int (-7)),
            ("a", .bool true)] }] }]

/-- The snapshot above in JSON, with fields out of order, some defaults left out and some written. -/
def mixedDatum : Datum :=
  .obj [
    ("declarations", .arr [.obj [
      ("annotations", .arr [.obj [
        ("values", .obj [
          ("z", .arr [.obj [("class", .str "a.Tag")],
            .obj [("annotation", .obj [
              ("value_locations", .obj [
                ("class", .obj [("end", .unsigned 5), ("start", .unsigned 3), ("file", .str "A.java")])]),
              ("values", .obj [("class", .str "annotation")]),
              ("location", .null),
              ("type", .str "a.Tag")])],
            .arr [], .str "class"]),
          ("b", .signed (-7)),
          ("a", .bool true)]),
        ("type", .str "a.Tag")]]),
      ("members", .arr []),
      ("name", .str "a.Übung \"1\""),
      ("kind", .str "class")]]),
    ("types", .arr [.obj [("name", .str "a.Tag")]])]

theorem distinct_mixedExample : mixedExample.Distinct := by
  have hlist : ValueSpec.Distinct (.list [.classLiteral "a.Tag",
      .nested "a.Tag" [("class", .str "annotation")] none [("class", ⟨"A.java", 3, 5⟩)],
      .list [], .str "class"]) := by
    refine .list ?_
    simp only [List.forall_mem_cons]
    refine ⟨.classLiteral, .nested (by decide) ?_ (by decide), .list (by simp), .str, by simp⟩
    simpa using .str
  simp only [Distinct, nodes, mixedExample, DeclSpec.nodesOfAll, DeclSpec.nodes, List.append_nil,
    List.forall_mem_singleton]
  refine ⟨by decide, ?_, by decide⟩
  simp only [List.forall_mem_cons]
  exact ⟨hlist, .int, .bool, by simp⟩

theorem writtenAs_mixedDatum : mixedExample.WrittenAs mixedDatum := by
  simp [mixedExample, mixedDatum, WrittenAs, TypeSpec.WrittenAs, DeclSpec.writtenAs_eq,
    DeclSpec.fields, DeclSpec.fieldsWith, AttachmentSpec.WrittenAs, attachmentFields,
    ValueSpec.WrittenAs, ValueSpec.ItemsWrittenAs, ValueSpec.EntriesWrittenAs, Location.WrittenAs,
    Location.fields, ListOf, TableOf, OptionalOf, StringOf, OffsetOf, Kind.keyword]

theorem exists_ofJson_mixedExample :
    mixedExample.WrittenAs mixedDatum ∧ ∃ text, mixedDatum.IsText text ∧
      ofJson text = .ok mixedExample := by
  obtain ⟨text, ht⟩ := mixedDatum.exists_isText
  have hread := (expressible_of_distinct mixedExample distinct_mixedExample).read mixedDatum text
    writtenAs_mixedDatum ht (by decide)
  exact ⟨writtenAs_mixedDatum, text, ht, hread⟩

end Snapshot

end ModContracts
