import ModContracts.Proofs.Program.Order
import ModContracts.Proofs.Snapshot.Faithful
import ModContracts.Proofs.Snapshot.TypeTable

/-!
# Reference types and keywords

`void` and the primitives are in the same table as all other types, under their keywords. The name of a
type decides what it is: under a keyword stands `void` or a primitive, whatever declares a type of that
name, and under any other name a reference type. In the same way the two names of a written supertype
decide whether it takes effect.

* `typeKeywords` — the names of the types that are no reference types;
* `Program.IsReference`, `Program.Built.isReference_iff` — the reference types of a program;
* `Program.TakesEffect`, `Program.Built.isSubtype_iff_takesEffect` — the written supertypes that make a
  type a subtype;
* `Snapshot.references_of_load` — what the type declarations of a snapshot introduce, and which of its
  supertypes take effect.
-/

namespace ModContracts

/-- The names of the types that are no reference types. -/
def typeKeywords : List String :=
  "void" :: Primitive.all.map Primitive.name

namespace Program

/-- A type is a declared type below the root of declared types, and neither `void` nor a primitive. -/
structure IsReference (p : Program) (t : TypeId) : Prop where
  declared : p.typeKind? t = some .declared
  below : ∃ root, p.typeId? objectName = some root ∧ p.isSubtype t root = true
  noKeyword : ∀ word ∈ typeKeywords, p.typeId? word ≠ some t

/-- A supertype that is written for a name makes the type of that name its subtype: among reference
types always, and else as far as `void` and the primitives are subtypes on their own. -/
inductive TakesEffect (name super : String) : Prop
  | references (hname : name ∉ typeKeywords) (hsuper : super ∉ typeKeywords)
  | void (hname : name = "void") (hsuper : super = "void")
  | primitives {q r : Primitive} (hname : name = q.name) (hsuper : super = r.name)
      (hwidens : q.widensTo r = true)

variable {p : Program} {t u : TypeId} {name super : String}

/-! ## Kinds of names -/

theorem kindOfName_void : kindOfName "void" = .void := rfl

theorem kindOfName_primitive (q : Primitive) : kindOfName q.name = .primitive q := by
  cases q <;> decide

theorem typeKeywords_subset_initial : typeKeywords ⊆ Program.initial.names := by
  decide

/-- A name stands for a declared type unless it is a keyword. -/
theorem kindOfName_eq_declared_iff : kindOfName name = .declared ↔ name ∉ typeKeywords := by
  have hbuiltin : ∀ entry ∈ builtinTypes, entry.kind = .declared ↔ entry.name ∉ typeKeywords := by
    decide
  by_cases hname : name ∈ Program.initial.names
  · obtain ⟨entry, hentry, rfl⟩ := List.mem_map.1 hname
    rw [← Built.initial.kind_eq entry hentry]
    exact hbuiltin entry hentry
  · have hkeyword : name ∉ typeKeywords := fun hmem => hname (typeKeywords_subset_initial hmem)
    exact iff_of_true (kindOfName_of_not_mem hname) hkeyword

/-- A name stands for a primitive only if it is its keyword. -/
theorem kindOfName_eq_primitive_iff {q : Primitive} :
    kindOfName name = .primitive q ↔ name = q.name := by
  constructor
  · intro hkind
    have hmem : name ∈ typeKeywords := by
      by_contra hnot
      rw [kindOfName_eq_declared_iff.2 hnot] at hkind
      cases hkind
    rcases List.mem_cons.1 hmem with rfl | hprimitive
    · cases hkind
    · obtain ⟨r, -, rfl⟩ := List.mem_map.1 hprimitive
      rw [kindOfName_primitive] at hkind
      cases hkind
      rfl
  · rintro rfl
    exact kindOfName_primitive q

theorem kindOfName_eq_void_iff : kindOfName name = .void ↔ name = "void" := by
  refine ⟨eq_of_kindOfName_eq_void, ?_⟩
  rintro rfl
  exact kindOfName_void

/-! ## Types of names -/

/-- Every keyword stands for a type. -/
theorem Built.exists_typeId?_of_keyword (h : p.Built) (hname : name ∈ typeKeywords) :
    ∃ t, p.typeId? name = some t :=
  h.indexed.exists_typeId?_iff.2
    (h.names_initial_isPrefix.subset (typeKeywords_subset_initial hname))

/-- The type of a name is a reference type unless the name is a keyword. -/
theorem Built.isReference_iff (h : p.Built) (hname : p.typeName t = .ok name) :
    p.IsReference t ↔ name ∉ typeKeywords := by
  have hid : p.typeId? name = some t := h.indexed.typeId?_eq_some_iff.2 hname
  constructor
  · intro href hmem
    exact href.noKeyword name hmem hid
  · intro hnot
    have hkind : p.typeKind? t = some .declared := by
      rw [h.typeKind?_eq hname, kindOfName_eq_declared_iff.2 hnot]
    refine ⟨hkind, ⟨TypeId.object, ?_, ?_⟩, fun word hword hid' => ?_⟩
    · have hentry : builtinTypes[TypeId.object]? = some ⟨objectName, .declared, []⟩ := rfl
      exact h.indexed.typeId?_eq_some_iff.2 (h.typeName_builtin hentry)
    · exact isSubtype_iff.2 (.declared hkind h.typeKind?_object (.inl rfl))
    · have hsame := (h.indexed.typeId?_eq_some_iff.1 hid').symm.trans hname
      exact hnot (Except.ok.inj hsame ▸ hword)

/-- A written supertype is above the type it is written for exactly when it takes effect. -/
theorem Built.isSubtype_iff_takesEffect (h : p.Built) (hname : p.typeName t = .ok name)
    (hsuper : p.typeName u = .ok super) (hextends : p.Extends t u) :
    p.isSubtype t u = true ↔ TakesEffect name super := by
  have ht := h.typeKind?_eq hname
  have hu := h.typeKind?_eq hsuper
  rw [isSubtype_iff]
  constructor
  · intro hbelow
    cases hbelow with
    | void ha hb =>
        rw [ht, Option.some.injEq, kindOfName_eq_void_iff] at ha
        rw [hu, Option.some.injEq, kindOfName_eq_void_iff] at hb
        exact .void ha hb
    | primitive ha hb hwidens =>
        rw [ht, Option.some.injEq, kindOfName_eq_primitive_iff] at ha
        rw [hu, Option.some.injEq, kindOfName_eq_primitive_iff] at hb
        exact .primitives ha hb hwidens
    | declared ha hb =>
        rw [ht, Option.some.injEq, kindOfName_eq_declared_iff] at ha
        rw [hu, Option.some.injEq, kindOfName_eq_declared_iff] at hb
        exact .references ha hb
  · intro heffect
    cases heffect with
    | references hn hs =>
        rw [← kindOfName_eq_declared_iff] at hn hs
        exact .declared (by rw [ht, hn]) (by rw [hu, hs]) (.inr (.single hextends))
    | void hn hs =>
        rw [← kindOfName_eq_void_iff] at hn hs
        exact .void (by rw [ht, hn]) (by rw [hu, hs])
    | primitives hn hs hwidens =>
        rw [← kindOfName_eq_primitive_iff] at hn hs
        exact .primitive (by rw [ht, hn]) (by rw [hu, hs]) hwidens

end Program

/-! ## Loaded programs -/

namespace Snapshot

variable {s : Snapshot} {p : Program} {entry : String × List String} {super : String}

/-- Both names of a written supertype are known in a loaded program. -/
theorem exists_typeIds_of_load (h : s.load = .ok p) (hentry : entry ∈ s.namedTypes)
    (hsuper : super ∈ entry.2) :
    ∃ t u, p.typeId? entry.1 = some t ∧ p.typeId? super = some u := by
  have hindexed := (built_of_load h).indexed
  obtain ⟨q, hq, -⟩ := bind_eq_ok_iff.1 h
  have hname : entry.1 ∈ s.namedTypes.map Prod.fst := List.mem_map_of_mem hentry
  have hclosed := (exists_loadTypes_iff.1 ⟨q, hq⟩).2 super (List.mem_flatMap.2 ⟨entry, hentry, hsuper⟩)
  rw [map_fst_namedTypes] at hname hclosed
  obtain ⟨t, ht⟩ := hindexed.exists_typeId?_iff.2 ((mem_names_of_load h entry.1).2 (.inl hname))
  obtain ⟨u, hu⟩ := hindexed.exists_typeId?_iff.2 ((mem_names_of_load h super).2 hclosed.symm)
  exact ⟨t, u, ht, hu⟩

/-- In a loaded program a type declaration introduces the type of its name, which is a reference type
exactly when the name is no keyword. The supertypes that are written, for library types and type
declarations alike, are known types, and make the type they are written for a subtype exactly when they
take effect, as all of them do that have to do with no keyword. -/
theorem references_of_load (h : s.load = .ok p) :
    (∀ (d : Nat) (n : Node), s.nodes[d]? = some n → n.spec.kind.isType = true →
      ∃ t, p.typeOf d = .ok t ∧ p.typeName t = .ok n.spec.name ∧
        (p.IsReference t ↔ n.spec.name ∉ typeKeywords)) ∧
    ∀ entry ∈ s.namedTypes, ∀ super ∈ entry.2, ∃ t u, p.typeId? entry.1 = some t ∧
      p.typeId? super = some u ∧
        (p.isSubtype t u = true ↔ Program.TakesEffect entry.1 super) := by
  have hbuilt := built_of_load h
  have hindexed := hbuilt.indexed
  refine ⟨fun d n hn hkind => ?_, fun entry hentry super hsuper => ?_⟩
  · obtain ⟨t, segment, htype, hname, -⟩ :=
      ((faithful_of_load h).answered d n hn).declaredType hkind
    exact ⟨t, htype, hname, hbuilt.isReference_iff hname⟩
  · obtain ⟨t, u, ht, hu⟩ := exists_typeIds_of_load h hentry hsuper
    have hextends : p.Extends t u := (extends_iff_of_load h).2
      ⟨entry.1, super, mem_writes_iff.2 ⟨entry, hentry, rfl, hsuper⟩, ht, hu⟩
    exact ⟨t, u, ht, hu, hbuilt.isSubtype_iff_takesEffect (hindexed.typeName_of_typeId? ht)
      (hindexed.typeName_of_typeId? hu) hextends⟩

/-- A class that is named like a primitive, and a class with two supertypes, one of them `void`. -/
def keywordExample : Snapshot where
  declarations := [
    { kind := .classType, name := "int" },
    { kind := .classType, name := "a.Odd", supertypes := ["java.lang.String", "void"] }]

theorem mem_namedTypes_keywordExample :
    ("a.Odd", ["java.lang.String", "void"]) ∈ keywordExample.namedTypes := by
  simp [namedTypes, keywordExample, DeclSpec.namedTypesOfAll, DeclSpec.namedTypes, Kind.isType]

theorem exists_references_keywordExample :
    ∃ p, keywordExample.load = .ok p ∧
      (∃ t, p.typeOf 0 = .ok t ∧ (p.IsReference t ↔ "int" ∉ typeKeywords)) ∧
      (∃ t, p.typeOf 1 = .ok t ∧ (p.IsReference t ↔ "a.Odd" ∉ typeKeywords)) ∧
      ∃ t u, p.typeId? "a.Odd" = some t ∧ p.typeId? "java.lang.String" = some u ∧
        (p.isSubtype t u = true ↔ Program.TakesEffect "a.Odd" "java.lang.String") := by
  have hload : keywordExample.load.toOption.isSome = true := by
    decide +kernel
  obtain ⟨p, hp⟩ := Option.isSome_iff_exists.1 hload
  rw [toOption_eq_some_iff] at hp
  obtain ⟨hdeclared, hwritten⟩ := references_of_load hp
  obtain ⟨t, ht, -, href⟩ := hdeclared 0 _ rfl rfl
  obtain ⟨u, hu, -, href'⟩ := hdeclared 1 _ rfl rfl
  exact ⟨p, hp, ⟨t, ht, href⟩, ⟨u, hu, href'⟩,
    hwritten _ mem_namedTypes_keywordExample "java.lang.String" (by simp)⟩

/-- A class that is named like a primitive introduces the primitive, which is not below the root, and
a written supertype of the other class is accepted without effect. -/
theorem exists_class_of_keyword :
    ∃ p, keywordExample.load = .ok p ∧
      (∃ t root, p.kindOf 0 = .ok .classType ∧ p.typeOf 0 = .ok t ∧
        p.typeId? objectName = some root ∧ p.isSubtype t root = false ∧ ¬ p.IsReference t) ∧
      ∃ t u, ("a.Odd", ["java.lang.String", "void"]) ∈ keywordExample.namedTypes ∧
        p.typeId? "a.Odd" = some t ∧ p.typeId? "void" = some u ∧ p.isSubtype t u = false := by
  have hrun : (keywordExample.load.toOption.any fun p =>
      p.kindOf 0 = .ok .classType && p.typeOf 0 = .ok 5 && p.typeId? objectName = some 9 &&
        p.isSubtype 5 9 = false && p.typeId? "a.Odd" = some 11 && p.typeId? "void" = some 0 &&
        p.isSubtype 11 0 = false) = true := by
    decide +kernel
  obtain ⟨p, hload, hfacts⟩ := (Option.any_eq_true _ _).1 hrun
  simp only [Bool.and_eq_true, decide_eq_true_eq, toOption_eq_some_iff] at hload hfacts
  obtain ⟨⟨⟨⟨⟨⟨hkind, htype⟩, hroot⟩, hbelow⟩, hodd⟩, hvoid⟩, hnot⟩ := hfacts
  refine ⟨p, hload, ⟨5, 9, hkind, htype, hroot, hbelow, fun href => ?_⟩,
    11, 0, mem_namedTypes_keywordExample, hodd, hvoid, hnot⟩
  obtain ⟨root, hroot', hbelow'⟩ := href.below
  obtain rfl := Option.some.inj (hroot.symm.trans hroot')
  simp [hbelow] at hbelow'

end Snapshot

end ModContracts
