import ModContracts.Proofs.Program.Carriers
import ModContracts.Proofs.Snapshot.Built
import ModContracts.Proofs.Snapshot.Consistent

/-!
# Loaded programs are closed

A loaded program knows every type that it stores anywhere, down to the class literals and nested
annotations inside attachment values; its members stand in type declarations; and type declarations
and the types they declare determine each other.

* `Value.typeIds`, `Declaration.typeIds`, `Attachment.typeIds`, `Program.storedTypes` — the type ids
  that are stored;
* `Named` — ids that names stand for, which is what loading stores;
* `Program.SupertypesKnown` — supertypes are known, as the phase that loads types keeps it;
* `Program.Consistent` — closed, with members in types and types tied to their declarations;
* `Snapshot.consistent_of_load` — loaded programs are consistent.
-/

namespace ModContracts

/-! ## Types that are stored -/

namespace Value

mutual

/-- The types a value refers to anywhere: those of class literals and those of nested attachments. -/
def typeIds : Value → List TypeId
  | .type t => [t]
  | .list items => typeIdsOfItems items
  | .nested t values => t :: typeIdsOfEntries values
  | .bool _ | .int _ | .str _ => []

/-- The types the items of a list refer to. -/
def typeIdsOfItems : List Value → List TypeId
  | [] => []
  | v :: rest => typeIds v ++ typeIdsOfItems rest

/-- The types named values refer to. -/
def typeIdsOfEntries : List (String × Value) → List TypeId
  | [] => []
  | (_, v) :: rest => typeIds v ++ typeIdsOfEntries rest

end

end Value

/-- The types a declaration refers to: its own, those of its parameters and the one it returns. -/
def Declaration.typeIds (decl : Declaration) : List TypeId :=
  decl.type?.toList ++ decl.parameters ++ decl.returns?.toList

/-- The types an attachment refers to: its own and those in its values. -/
def Attachment.typeIds (attached : Attachment) : List TypeId :=
  attached.type :: Value.typeIdsOfEntries attached.values

namespace Program

/-- Every type id in the tables and indexes of a program. -/
def storedTypes (p : Program) : List TypeId :=
  p.types.flatMap TypeEntry.supertypes ++ p.declarations.flatMap Declaration.typeIds ++
    p.attachments.flatMap Attachment.typeIds ++
    (p.typeIds.map Prod.snd ++ p.introducedBy.map Prod.fst ++ p.carriers.map Prod.fst)

/-- A program knows a type. -/
def Knows (p : Program) (t : TypeId) : Prop :=
  ∃ name, p.typeName t = .ok name

end Program

/-! ## Ids that names stand for -/

/-- Some name stands for a type. -/
def Named (ids : TypeIds) (t : TypeId) : Prop :=
  ∃ name, ids name = some t

theorem Program.Indexed.knows_of_named {p : Program} (h : p.Indexed) {t : TypeId}
    (ht : Named p.typeId? t) : p.Knows t :=
  ht.imp fun _ => h.typeName_of_typeId?

section Named

variable {ids : TypeIds}

theorem StandFor.named {names : List String} {types : List TypeId} (h : StandFor ids names types) :
    ∀ t ∈ types, Named ids t := by
  induction h with
  | nil => simp
  | cons hfirst _ ih => exact List.forall_mem_cons.2 ⟨⟨_, hfirst⟩, ih⟩

namespace ValueSpec

mutual

/-- What a written value stands for refers to types that names stand for, however deep. -/
theorem named_of_means : ∀ (spec : ValueSpec) (v : Value), Means ids spec v →
    ∀ t ∈ v.typeIds, Named ids t
  | .bool b, _, rfl => by simp [Value.typeIds]
  | .int i, _, rfl => by simp [Value.typeIds]
  | .str s, _, rfl => by simp [Value.typeIds]
  | .classLiteral name, _, ⟨t, ht, rfl⟩ => by
      rw [Value.typeIds, List.forall_mem_singleton]
      exact ⟨name, ht⟩
  | .nested type values _ _, _, ⟨t, entries, ht, hentries, rfl⟩ => by
      rw [Value.typeIds, List.forall_mem_cons]
      exact ⟨⟨type, ht⟩, named_of_entriesMean values entries hentries⟩
  | .list items, _, ⟨vs, hvs, rfl⟩ => by
      rw [Value.typeIds]
      exact named_of_itemsMean items vs hvs

theorem named_of_itemsMean : ∀ (specs : List ValueSpec) (vs : List Value),
    ItemsMean ids specs vs → ∀ t ∈ Value.typeIdsOfItems vs, Named ids t
  | [], _, rfl => by simp [Value.typeIdsOfItems]
  | spec :: rest, _, ⟨v, ws, hv, hws, rfl⟩ => by
      rw [Value.typeIdsOfItems, List.forall_mem_append]
      exact ⟨named_of_means spec v hv, named_of_itemsMean rest ws hws⟩

theorem named_of_entriesMean : ∀ (specs : List (String × ValueSpec)) (es : List (String × Value)),
    EntriesMean ids specs es → ∀ t ∈ Value.typeIdsOfEntries es, Named ids t
  | [], _, rfl => by simp [Value.typeIdsOfEntries]
  | (_, spec) :: rest, _, ⟨v, ws, hv, hws, rfl⟩ => by
      rw [Value.typeIdsOfEntries, List.forall_mem_append]
      exact ⟨named_of_means spec v hv, named_of_entriesMean rest ws hws⟩

end

end ValueSpec

theorem AttachmentSpec.Means.named {spec : AttachmentSpec} {d : DeclId} {attached : Attachment}
    (h : spec.Means ids d attached) : ∀ t ∈ attached.typeIds, Named ids t :=
  List.forall_mem_cons.2 ⟨⟨_, h.type⟩, ValueSpec.named_of_entriesMean _ _ h.values⟩

/-- Whichever of a type, parameters and a returned type the kind of a node writes, names stand for
them. -/
theorem Snapshot.Node.Describes.named {n : Node} {decl : Declaration} (h : n.Describes ids decl) :
    ∀ t ∈ decl.typeIds, Named ids t := by
  have hsignature := h.signature
  unfold Signature at hsignature
  unfold Declaration.typeIds
  cases hk : n.spec.kind with
  | method =>
      simp only [hk] at hsignature
      obtain ⟨-, htype, hparameters, t, ht, hreturns⟩ := hsignature
      rw [htype, hreturns, Option.toList_none, List.nil_append, List.forall_mem_append]
      exact ⟨hparameters.named, List.forall_mem_singleton.2 ⟨_, ht⟩⟩
  | constructor =>
      simp only [hk] at hsignature
      obtain ⟨-, htype, hparameters, hreturns⟩ := hsignature
      rw [htype, hreturns, Option.toList_none, List.nil_append, List.append_nil]
      exact hparameters.named
  | _ =>
      simp only [hk] at hsignature
      obtain ⟨-, ⟨t, ht, htype⟩, hparameters, hreturns⟩ := hsignature
      rw [htype, hparameters, hreturns, List.append_nil, Option.toList_none, List.append_nil]
      exact List.forall_mem_singleton.2 ⟨_, ht⟩

end Named

/-! ## Supertypes -/

namespace Program

variable {p q : Program}

theorem SameNames.knows_iff (h : p.SameNames q) {t : TypeId} : q.Knows t ↔ p.Knows t := by
  simp only [Knows, typeName_eq_ok_iff, h.names_eq]

/-- The supertypes of known types are known. -/
def SupertypesKnown (p : Program) : Prop :=
  ∀ entry ∈ p.types, ∀ t ∈ entry.supertypes, p.Knows t

/-- A registered type has no supertypes at first. -/
theorem supertypes_registerAll {names : List String}
    (h : ∀ entry ∈ p.types, entry.supertypes = []) :
    ∀ entry ∈ (p.registerAll names).types, entry.supertypes = [] := by
  induction names generalizing p with
  | nil => exact h
  | cons name rest ih =>
      have hregister : ∀ entry ∈ (p.register name .declared).1.types, entry.supertypes = [] := by
        unfold register
        cases p.typeId? name with
        | some t => exact h
        | none => exact List.forall_mem_append.2 ⟨h, by simp⟩
      exact ih hregister

theorem SupertypesKnown.addSupertype (h : p.SupertypesKnown) (type : TypeId) {super : TypeId}
    (hsuper : p.Knows super) : (p.addSupertype type super).SupertypesKnown := by
  intro entry hentry t ht
  rw [(sameNames_addSupertype p type super).knows_iff]
  obtain ⟨i, hi⟩ := List.mem_iff_getElem?.1 hentry
  obtain ⟨before, hbefore, rfl | ⟨-, rfl⟩⟩ := addSupertype_cases hi
  · exact h entry (List.mem_of_getElem? hbefore) t ht
  · rcases List.mem_append.1 ht with ht | ht
    · exact h before (List.mem_of_getElem? hbefore) t ht
    · rwa [List.mem_singleton.1 ht]

theorem SupertypesKnown.loadAllSupertypes (h : p.SupertypesKnown) (hp : p.Indexed)
    {named : List (String × List String)} (hq : p.loadAllSupertypes named = .ok q) :
    q.SupertypesKnown := by
  refine loadAllSupertypes_induction (fun r type super hnames hsuper hr => ?_) (.refl p) h hq
  exact hr.addSupertype type (hnames.knows_iff.2 (hp.knows_of_named hsuper))

end Program

namespace Snapshot

variable {s : Snapshot} {p q : Program}

/-- Loading nodes leaves the table of types alone. -/
theorem types_loadNodes {ns : List Node} (hp : p.Indexed) (h : loadNodes p ns = .ok q) :
    q.types = p.types := by
  induction ns generalizing p with
  | nil =>
      obtain rfl : p = q := by simpa using h
      rfl
  | cons n rest ih =>
      rw [loadNodes_cons] at h
      obtain ⟨r, hr, h⟩ := bind_eq_ok_iff.1 h
      obtain ⟨-, decl, attached, -, -, hload⟩ := (Node.load_eq_ok_iff hp).1 hr
      rw [ih ((Node.load_frame hp hr).1.indexed hp) h, ← hload]
      simp

theorem supertypesKnown_of_load (h : s.load = .ok p) : p.SupertypesKnown := by
  obtain ⟨q, hq, -⟩ := bind_eq_ok_iff.1 h
  obtain ⟨hindexed, -, -⟩ := loadTypes_ok hq
  rw [load_eq_loadNodes hq] at h
  have htypes := types_loadNodes hindexed h
  rw [loadTypes_eq (nodup_of_loadTypes hq)] at hq
  have hnone : ∀ entry ∈ (Program.initial.registerAll (s.namedTypes.map Prod.fst)).types,
      entry.supertypes = [] := Program.supertypes_registerAll (by decide)
  have hbefore : (Program.initial.registerAll (s.namedTypes.map Prod.fst)).SupertypesKnown := by
    intro entry hentry t ht
    simp [hnone entry hentry] at ht
  have hknown := hbefore.loadAllSupertypes (Program.indexed_initial.registerAll _) hq
  unfold Program.SupertypesKnown Program.Knows Program.typeName
  rw [htypes]
  exact hknown

end Snapshot

/-! ## Consistent programs -/

namespace Program

/-- A program is closed, its members stand in type declarations, and type declarations and the types
they declare determine each other. -/
structure Consistent (p : Program) : Prop where
  /-- Every type that is stored anywhere has a name. -/
  known : ∀ t ∈ p.storedTypes, ∃ name, p.typeName t = .ok name
  /-- Methods, constructors and fields stand in a declaration, which declares a type. -/
  enclosed : ∀ d kind, p.kindOf d = .ok kind → kind.isType = false →
    ∃ owner around, p.enclosingOf d = .ok (some owner) ∧ p.kindOf owner = .ok around ∧
      around.isType = true
  /-- The declaration of the type that a type declaration declares is that declaration. -/
  introduced : ∀ d kind, p.kindOf d = .ok kind → kind.isType = true →
    ∃ t, p.typeOf d = .ok t ∧ p.introducing? t = some d
  /-- The declaration of a type is a type declaration and declares that type. -/
  introducing : ∀ t d, p.introducing? t = some d →
    ∃ kind, p.kindOf d = .ok kind ∧ kind.isType = true ∧ p.typeOf d = .ok t

/-- In a well-formed program only the types that are stored are left to look at. -/
theorem WellFormed.consistent {p : Program} (hp : p.WellFormed)
    (hknown : ∀ t ∈ p.storedTypes, p.Knows t) : p.Consistent where
  known := hknown
  enclosed d kind hd hkind := by
    obtain ⟨decl, hdecl, rfl⟩ := kindOf_eq_ok_iff.1 hd
    obtain ⟨owner, howner⟩ := hp.enclosed hdecl hkind
    obtain ⟨around, haround, htype⟩ := hp.enclosing hdecl howner
    exact ⟨owner, around.kind, by rw [enclosingOf_eq hdecl, howner], kindOf_eq haround, htype⟩
  introduced d kind hd hkind := by
    obtain ⟨decl, hdecl, rfl⟩ := kindOf_eq_ok_iff.1 hd
    obtain ⟨t, -, ht, -⟩ := hp.typed hdecl (Kind.not_isExecutable_of_isType hkind)
    refine ⟨t, typeOf_eq hdecl ht, (hp.introducing t d).2 ⟨decl, hdecl, ?_⟩⟩
    exact Declaration.introduced?_eq_some_iff.2 ⟨hkind, ht⟩
  introducing t d hd := by
    obtain ⟨decl, hdecl, hintroduced⟩ := (hp.introducing t d).1 hd
    obtain ⟨hkind, ht⟩ := Declaration.introduced?_eq_some_iff.1 hintroduced
    exact ⟨decl.kind, kindOf_eq hdecl, hkind, typeOf_eq hdecl ht⟩

end Program

namespace Snapshot

variable {s : Snapshot} {p : Program}

theorem knows_of_declaration (h : s.load = .ok p) :
    ∀ decl ∈ p.declarations, ∀ t ∈ decl.typeIds, p.Knows t := by
  obtain ⟨hindexed, hholds⟩ := holds_of_load h
  intro decl hdecl t ht
  obtain ⟨d, hd⟩ := List.mem_iff_getElem?.1 hdecl
  obtain ⟨n, -, hbecomes⟩ := hholds.node_of_declaration hd
  exact hindexed.knows_of_named (hbecomes.named t ht)

theorem knows_of_attachment (h : s.load = .ok p) :
    ∀ attached ∈ p.attachments, ∀ t ∈ attached.typeIds, p.Knows t := by
  obtain ⟨hindexed, hholds⟩ := holds_of_load h
  intro attached hattached t ht
  obtain ⟨placed, -, hmeans⟩ := exists_mem_of_forall₂ hholds.attachments hattached
  exact hindexed.knows_of_named (hmeans.named t ht)

/-- Every type that a loaded program stores is known. -/
theorem knows_of_mem_storedTypes (h : s.load = .ok p) : ∀ t ∈ p.storedTypes, p.Knows t := by
  have hp := wellFormed_of_load h
  have hdeclarations := knows_of_declaration h
  have hattachments := knows_of_attachment h
  simp only [Program.storedTypes, List.forall_mem_append, List.forall_mem_flatMap]
  refine ⟨⟨⟨supertypesKnown_of_load h, hdeclarations⟩, hattachments⟩, ⟨?_, ?_⟩, ?_⟩
  · -- the index of names
    intro t ht
    obtain ⟨⟨name, t⟩, hname, rfl⟩ := List.mem_map.1 ht
    rw [hp.indexed.typeIds_eq, List.mem_zipIdx_iff_getElem?] at hname
    exact ⟨name, Program.typeName_eq_ok_iff.2 hname⟩
  · -- a type with a declaration is the type of that declaration
    intro t ht
    obtain ⟨d, hd⟩ : ∃ d, p.introducing? t = some d := by
      by_contra hnone
      exact Keyed.find?_eq_none_iff.1 (Option.eq_none_iff_forall_not_mem.2 fun d hd => hnone ⟨d, hd⟩) ht
    obtain ⟨decl, hdecl, hintroduced⟩ := (hp.introducing t d).1 hd
    obtain ⟨-, htype⟩ := Declaration.introduced?_eq_some_iff.1 hintroduced
    refine hdeclarations decl (List.mem_of_getElem? hdecl) t ?_
    simp [Declaration.typeIds, htype]
  · -- a type with carriers is the type of an attachment
    intro t ht
    obtain ⟨attached, hattached, rfl⟩ := (built_of_load h).attached.keys t ht
    exact hattachments attached hattached _ List.mem_cons_self

/-- A loaded program is consistent. -/
theorem consistent_of_load (h : s.load = .ok p) : p.Consistent :=
  (wellFormed_of_load h).consistent (knows_of_mem_storedTypes h)

/-- A class with a supertype and a field. Its annotation holds a list with an annotation inside, which
holds a class literal. -/
def literalExample : Snapshot where
  types := [{ name := "a.Base" }, { name := "a.Mark" }, { name := "a.Inner" }]
  declarations := [{
    kind := .classType, name := "b.Example", supertypes := ["a.Base"]
    attachments := [{
      type := "a.Mark"
      values := [("value", .list [.nested "a.Inner" [("type", .classLiteral "b.Example")] none []])] }]
    members := [{ kind := .field, name := "held", type? := some "a.Base" }] }]

theorem exists_consistent_literalExample :
    ∃ p, literalExample.load = .ok p ∧ p.Consistent ∧
      p.attachments.map Attachment.typeIds = [[12, 13, 14]] := by
  have hload : (literalExample.load.toOption.any fun p =>
      p.attachments.map Attachment.typeIds = [[12, 13, 14]]) = true := by
    decide +kernel
  obtain ⟨p, hp, htypes⟩ := (Option.any_eq_true _ _).1 hload
  have hp := toOption_eq_some_iff.1 hp
  exact ⟨p, hp, consistent_of_load hp, of_decide_eq_true htypes⟩

end Snapshot

end ModContracts
