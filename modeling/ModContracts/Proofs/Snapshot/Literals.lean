import ModContracts.Proofs.Snapshot.Closed

/-!
# The class literals of an annotation

An attachment's type references are the class literals of its annotation: all of them, however deep they
stand in lists and nested annotations, in the order of the document, and each as often as it is written.
A path leads to every literal by the number of the part at each level, so the order of the document is
the lexicographic order of paths.

* `ValueSpec.LiteralAt`, `AttachmentSpec.LiteralAt` — a class literal stands at a path;
* `InDocumentOrder` — a list of all that stands somewhere, by increasing path;
* `ValueSpec.exists_literals` — what a value becomes refers to the types of its literals in this order;
* `AttachmentSpec.RefersTo` — what an annotation refers to; `Snapshot.typeRefs_of_load` — the references
  of every attachment of a loaded program.
-/

namespace ModContracts

/-! ## Where literals stand -/

/-- A class literal of a type name stands in a value, at a path of numbers of items and entries. -/
inductive ValueSpec.LiteralAt : ValueSpec → List Nat → String → Prop
  | here {name : String} : LiteralAt (.classLiteral name) [] name
  | item {items : List ValueSpec} {i : Nat} {spec : ValueSpec} {path : List Nat} {name : String}
      (hitem : items[i]? = some spec) (hspec : LiteralAt spec path name) :
      LiteralAt (.list items) (i :: path) name
  | entry {type : String} {values : List (String × ValueSpec)} {location? : Option Location}
      {valueLocations : Keyed String Location} {i : Nat} {key : String} {spec : ValueSpec}
      {path : List Nat} {name : String}
      (hentry : values[i]? = some (key, spec)) (hspec : LiteralAt spec path name) :
      LiteralAt (.nested type values location? valueLocations) (i :: path) name

/-- A class literal stands in an annotation as it does in a value that is this annotation. -/
def AttachmentSpec.LiteralAt (spec : AttachmentSpec) : List Nat → String → Prop :=
  ValueSpec.LiteralAt (.nested spec.type spec.values spec.location? spec.valueLocations)

/-- All that stands somewhere, each path once and in the order of the document. -/
structure InDocumentOrder (Stands : List Nat → String → Prop) (found : List (List Nat × String)) :
    Prop where
  increasing : (found.map Prod.fst).Pairwise (· < ·)
  complete : ∀ path name, (path, name) ∈ found ↔ Stands path name

theorem inDocumentOrder_nil {Stands : List Nat → String → Prop}
    (h : ∀ path name, ¬ Stands path name) : InDocumentOrder Stands [] :=
  ⟨.nil, fun path name => iff_of_false List.not_mem_nil (h path name)⟩

/-! ## Literals of parts -/

namespace ValueSpec

/-- A class literal stands in one of some parts, which are numbered from `first` on. -/
def LiteralFrom (first : Nat) (specs : List ValueSpec) (path : List Nat) (name : String) : Prop :=
  ∃ i rest spec, path = (first + i) :: rest ∧ specs[i]? = some spec ∧ spec.LiteralAt rest name

variable {first : Nat} {spec : ValueSpec} {specs : List ValueSpec} {path : List Nat} {name : String}
  {found others : List (List Nat × String)}

theorem literalFrom_cons_iff :
    LiteralFrom first (spec :: specs) path name ↔
      (∃ rest, path = first :: rest ∧ spec.LiteralAt rest name) ∨
        LiteralFrom (first + 1) specs path name := by
  constructor
  · rintro ⟨i, rest, part, rfl, hpart, hliteral⟩
    cases i with
    | zero =>
        obtain rfl : spec = part := by simpa using hpart
        exact .inl ⟨rest, rfl, hliteral⟩
    | succ j =>
        refine .inr ⟨j, rest, part, ?_, by simpa using hpart, hliteral⟩
        rw [Nat.add_right_comm, Nat.add_assoc]
  · rintro (⟨rest, rfl, hliteral⟩ | ⟨j, rest, part, rfl, hpart, hliteral⟩)
    · exact ⟨0, rest, spec, rfl, rfl, hliteral⟩
    · refine ⟨j + 1, rest, part, ?_, by simpa using hpart, hliteral⟩
      rw [Nat.add_right_comm, Nat.add_assoc]

theorem literalAt_list_iff {items : List ValueSpec} :
    LiteralAt (.list items) path name ↔ LiteralFrom 0 items path name := by
  constructor
  · rintro (_ | ⟨hitem, hspec⟩)
    exact ⟨_, _, _, by rw [Nat.zero_add], hitem, hspec⟩
  · rintro ⟨i, rest, part, rfl, hpart, hliteral⟩
    rw [Nat.zero_add]
    exact .item hpart hliteral

theorem literalAt_nested_iff {type : String} {values : List (String × ValueSpec)}
    {location? : Option Location} {valueLocations : Keyed String Location} :
    LiteralAt (.nested type values location? valueLocations) path name ↔
      LiteralFrom 0 (values.map Prod.snd) path name := by
  constructor
  · rintro (_ | _ | ⟨hentry, hspec⟩)
    refine ⟨_, _, _, by rw [Nat.zero_add], ?_, hspec⟩
    rw [List.getElem?_map, hentry, Option.map_some]
  · rintro ⟨i, rest, part, rfl, hpart, hliteral⟩
    obtain ⟨⟨key, _⟩, hentry, rfl⟩ := by simpa only [List.getElem?_map, Option.map_eq_some_iff] using hpart
    rw [Nat.zero_add]
    exact .entry hentry hliteral

theorem not_literalFrom_nil (path : List Nat) (name : String) : ¬ LiteralFrom first [] path name := by
  simp [LiteralFrom]

/-- The literals of a part come before those of the parts after it. -/
theorem inDocumentOrder_cons (h : InDocumentOrder spec.LiteralAt found)
    (hrest : InDocumentOrder (LiteralFrom (first + 1) specs) others) :
    InDocumentOrder (LiteralFrom first (spec :: specs))
      (found.map (fun literal => (first :: literal.1, literal.2)) ++ others) := by
  refine ⟨?_, fun path name => ?_⟩
  · rw [List.map_append, List.map_map, List.pairwise_append]
    refine ⟨?_, hrest.increasing, ?_⟩
    · have hfound := h.increasing
      rw [List.pairwise_map] at hfound ⊢
      exact hfound.imp fun hlt => List.cons_lt_cons_iff.2 (.inr ⟨rfl, hlt⟩)
    · intro path hpath later hlater
      obtain ⟨literal, -, rfl⟩ := List.mem_map.1 hpath
      obtain ⟨⟨_, name⟩, hmem, rfl⟩ := List.mem_map.1 hlater
      obtain ⟨i, rest, _, rfl, -⟩ := (hrest.complete _ name).1 hmem
      exact List.cons_lt_cons_iff.2 (.inl (by omega))
  · rw [literalFrom_cons_iff, List.mem_append, hrest.complete, List.mem_map]
    refine or_congr_left ⟨?_, ?_⟩
    · rintro ⟨⟨rest, _⟩, hmem, heq⟩
      obtain ⟨rfl, rfl⟩ := Prod.mk.inj heq
      exact ⟨rest, rfl, (h.complete rest _).1 hmem⟩
    · rintro ⟨rest, rfl, hliteral⟩
      exact ⟨(rest, name), (h.complete rest name).2 hliteral, rfl⟩

/-! ## Literals and references -/

variable {ids : TypeIds}

theorem standFor_cons {refs later : List TypeId} (h : StandFor ids (found.map Prod.snd) refs)
    (hrest : StandFor ids (others.map Prod.snd) later) :
    StandFor ids ((found.map (fun literal => (first :: literal.1, literal.2)) ++ others).map Prod.snd)
      (refs ++ later) := by
  rw [List.map_append, List.map_map]
  exact List.rel_append h hrest

mutual

/-- What a value becomes refers to the types of its class literals, in their order. -/
theorem exists_literals : ∀ (spec : ValueSpec) (v : Value), Means ids spec v →
    ∃ found, InDocumentOrder spec.LiteralAt found ∧ StandFor ids (found.map Prod.snd) v.typeRefs
  | .bool b, _, rfl => ⟨[], inDocumentOrder_nil (fun _ _ => nofun), .nil⟩
  | .int i, _, rfl => ⟨[], inDocumentOrder_nil (fun _ _ => nofun), .nil⟩
  | .str s, _, rfl => ⟨[], inDocumentOrder_nil (fun _ _ => nofun), .nil⟩
  | .classLiteral name, _, ⟨t, ht, rfl⟩ => by
      refine ⟨[([], name)], ⟨List.pairwise_singleton _ _, fun path other => ?_⟩, .cons ht .nil⟩
      rw [List.mem_singleton]
      constructor
      · rintro ⟨⟩
        exact .here
      · rintro ⟨⟩
        rfl
  | .nested type values _ _, _, ⟨t, entries, ht, hentries, rfl⟩ => by
      obtain ⟨found, horder, hstand⟩ := exists_literals_of_entries values entries hentries 0
      exact ⟨found, ⟨horder.increasing, fun path name =>
        (horder.complete path name).trans literalAt_nested_iff.symm⟩, hstand⟩
  | .list items, _, ⟨vs, hvs, rfl⟩ => by
      obtain ⟨found, horder, hstand⟩ := exists_literals_of_items items vs hvs 0
      exact ⟨found, ⟨horder.increasing, fun path name =>
        (horder.complete path name).trans literalAt_list_iff.symm⟩, hstand⟩

theorem exists_literals_of_items : ∀ (specs : List ValueSpec) (vs : List Value),
    ItemsMean ids specs vs → ∀ first, ∃ found, InDocumentOrder (LiteralFrom first specs) found ∧
      StandFor ids (found.map Prod.snd) (Value.typeRefsOfItems vs)
  | [], _, rfl, _ => ⟨[], inDocumentOrder_nil not_literalFrom_nil, .nil⟩
  | spec :: rest, _, ⟨v, ws, hv, hws, rfl⟩, first => by
      obtain ⟨found, horder, hstand⟩ := exists_literals spec v hv
      obtain ⟨others, horder', hstand'⟩ := exists_literals_of_items rest ws hws (first + 1)
      exact ⟨_, inDocumentOrder_cons horder horder', standFor_cons hstand hstand'⟩

theorem exists_literals_of_entries : ∀ (specs : List (String × ValueSpec))
    (es : List (String × Value)), EntriesMean ids specs es → ∀ first,
    ∃ found, InDocumentOrder (LiteralFrom first (specs.map Prod.snd)) found ∧
      StandFor ids (found.map Prod.snd) (Value.typeRefsOfEntries es)
  | [], _, rfl, _ => ⟨[], inDocumentOrder_nil not_literalFrom_nil, .nil⟩
  | (_, spec) :: rest, _, ⟨v, ws, hv, hws, rfl⟩, first => by
      obtain ⟨found, horder, hstand⟩ := exists_literals spec v hv
      obtain ⟨others, horder', hstand'⟩ := exists_literals_of_entries rest ws hws (first + 1)
      exact ⟨_, inDocumentOrder_cons horder horder', standFor_cons hstand hstand'⟩

end

end ValueSpec

/-! ## References of attachments -/

/-- What an annotation refers to in a program: the types that its class literals name, in the order of the
document, all of which are known. -/
structure AttachmentSpec.RefersTo (p : Program) (spec : AttachmentSpec) (refs : List TypeId) : Prop where
  literals : ∃ found, InDocumentOrder spec.LiteralAt found ∧
    StandFor p.typeId? (found.map Prod.snd) refs
  known : ∀ t ∈ refs, p.Knows t

theorem AttachmentSpec.Means.refersTo {p : Program} {d : DeclId} {spec : AttachmentSpec}
    {attached : Attachment} (hp : p.Indexed) (h : spec.Means p.typeId? d attached) :
    spec.RefersTo p attached.typeRefs := by
  -- the annotation and the attachment, each as a value
  have hvalue : ValueSpec.Means p.typeId?
      (.nested spec.type spec.values spec.location? spec.valueLocations)
      (.nested attached.type attached.values) :=
    ⟨attached.type, attached.values, h.type, h.values, rfl⟩
  obtain ⟨found, horder, hstand⟩ := ValueSpec.exists_literals _ _ hvalue
  exact ⟨⟨found, horder, hstand⟩, fun t ht => hp.knows_of_named (hstand.named t ht)⟩

namespace Snapshot

/-- The attachments on a declaration of a loaded program are its annotations, one after the other, and
the type references of each are what its annotation refers to. -/
theorem typeRefs_of_load {s : Snapshot} {p : Program} {d : Nat} {n : Node} (h : s.load = .ok p)
    (hn : s.nodes[d]? = some n) :
    ∃ ids, p.attachmentsOf d = .ok ids ∧
      List.Forall₂ (fun a spec => ∃ attached, p.attachment a = .ok attached ∧
        spec.RefersTo p attached.typeRefs) ids n.spec.attachments := by
  obtain ⟨hindexed, hholds⟩ := holds_of_load h
  obtain ⟨decl, hdecl, hbecomes⟩ := hholds.declaration d n hn
  refine ⟨decl.attachments, Program.attachmentsOf_eq hdecl, ?_⟩
  rw [hbecomes.attachments]
  exact (attachments_at hholds.attachments hn).imp fun a spec ⟨attached, ha, hmeans⟩ =>
    ⟨attached, Program.attachment_eq ha, hmeans.refersTo hindexed⟩

/-- The annotation on a class holds a list of class literals, one of them repeated and one in a nested
annotation, and after that another class literal. -/
def literalsExample : Snapshot where
  types := [{ name := "a.Mark" }, { name := "a.Inner" }, { name := "a.First" }, { name := "a.Second" }]
  declarations := [{
    kind := .classType, name := "b.Example"
    attachments := [{
      type := "a.Mark"
      values := [
        ("list", .list [.classLiteral "a.Second", .str "a.First",
          .nested "a.Inner" [("type", .list [.classLiteral "b.Example"])] none [],
          .classLiteral "a.Second"]),
        ("type", .classLiteral "a.First")] }] }]

theorem exists_typeRefs_literalsExample :
    ∃ p attached, literalsExample.load = .ok p ∧ p.attachmentsOf 0 = .ok [0] ∧
      p.attachment 0 = .ok attached ∧ attached.typeRefs = [14, 15, 14, 13] ∧
      ∃ n spec, literalsExample.nodes[0]? = some n ∧ n.spec.attachments = [spec] ∧
        spec.RefersTo p attached.typeRefs := by
  have hrun : (literalsExample.load.toOption.any fun p =>
      (p.attachment 0).toOption.any fun attached =>
        p.attachmentsOf 0 = .ok [0] && attached.typeRefs = [14, 15, 14, 13]) = true := by
    decide +kernel
  obtain ⟨p, hload, hfacts⟩ := (Option.any_eq_true _ _).1 hrun
  obtain ⟨attached, hattached, hfacts⟩ := (Option.any_eq_true _ _).1 hfacts
  simp only [Bool.and_eq_true, decide_eq_true_eq, toOption_eq_some_iff] at hload hattached hfacts
  obtain ⟨hids, hrefs⟩ := hfacts
  obtain ⟨ids, hids', hall⟩ := typeRefs_of_load (d := 0) hload rfl
  obtain rfl : [0] = ids := Except.ok.inj (hids.symm.trans hids')
  obtain ⟨_, hfound, hrefers⟩ := (List.forall₂_cons.1 hall).1
  obtain rfl := Except.ok.inj (hattached.symm.trans hfound)
  exact ⟨p, attached, hload, hids, hattached, hrefs, _, _, rfl, rfl, hrefers⟩

end Snapshot

end ModContracts
