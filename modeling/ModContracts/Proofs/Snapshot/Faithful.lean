import ModContracts.Proofs.Program.Kinds
import ModContracts.Proofs.Snapshot.Built
import ModContracts.Proofs.Snapshot.Contents

/-!
# Loading is faithful

What can be asked of a loaded program is what its snapshot writes. The declarations of the program
are the nodes of the snapshot in preorder, its attachments are the annotations in the same order,
and types go by the names that the snapshot writes for them.

* `Snapshot.Node.Answered` — the answers of a program about one declaration are what a node writes;
* `Snapshot.Faithful` — so it is for all nodes, with none lost and none added;
* `Snapshot.faithful_of_load` — every loaded program is faithful to its snapshot.
-/

namespace ModContracts

namespace Snapshot

/-! ## Answers -/

/-- The answers of a program about the declaration with the number `d` are what the node `n` writes.
The program is asked as rules ask it; nothing here reads its tables. -/
structure Node.Answered (p : Program) (ns : List Node) (d : Nat) (n : Node) : Prop where
  kind : p.kindOf d = .ok n.spec.kind
  modifiers : ∃ set, p.modifiersOf d = .ok set ∧ ∀ m, set.has m = true ↔ m ∈ n.spec.modifiers
  enclosing : p.enclosingOf d = .ok n.parent?
  /-- The members are the nodes that stand in this one: all of them, by increasing number, and in
  the order in which they are written. -/
  members : ∃ ids : List Nat, p.membersOf d = .ok ids ∧ ids.Pairwise (· < ·) ∧
    (∀ e, e ∈ ids ↔ ∃ m, ns[e]? = some m ∧ m.parent? = some d) ∧
    List.Forall₂ (fun e child => ns[e]? = some ⟨child, some d⟩) ids n.spec.members
  /-- A type declaration declares the type it is named after, and goes by the last segment. -/
  declaredType : n.spec.kind.isType = true → ∃ t segment, p.typeOf d = .ok t ∧
    p.typeName t = .ok n.spec.name ∧ p.nameOf d = .ok segment ∧ IsLastSegment segment n.spec.name
  methodName : n.spec.kind = .method → p.nameOf d = .ok n.spec.name
  constructorName : n.spec.kind = .constructor → p.nameOf d = .ok "<init>"
  fieldName : n.spec.kind = .field → p.nameOf d = .ok n.spec.name
  fieldType : n.spec.kind = .field → ∃ written t, n.spec.type? = some written ∧
    p.typeOf d = .ok t ∧ p.typeName t = .ok written
  parameters : n.spec.kind.isExecutable = true → ∃ types, p.parametersOf d = .ok types ∧
    List.Forall₂ (fun written t => p.typeName t = .ok written) n.spec.parameters types
  /-- What writes no return type returns `void`; a constructor never writes one. -/
  returns : n.spec.kind.isExecutable = true → ∃ t, p.returnTypeOf d = .ok t ∧
    p.typeName t = .ok (n.spec.returns?.getD "void")
  constructorReturns : n.spec.kind = .constructor → n.spec.returns? = none
  location : p.locationOf? d = n.spec.location?
  /-- The attachments are numbered after those of all nodes before this one. -/
  attachments : ∃ ids, p.attachmentsOf d = .ok ids ∧
    ids = List.range' (annotations (ns.take d)).length n.spec.attachments.length ∧
    List.Forall₂ (fun a spec => ∃ attached, p.attachment a = .ok attached ∧
      AttachmentSpec.Means p.typeId? d spec attached) ids n.spec.attachments

/-- A program is what a snapshot writes. -/
structure Faithful (s : Snapshot) (p : Program) : Prop where
  /-- A written name and the type it stands for determine each other. -/
  names : ∀ name t, p.typeId? name = some t ↔ p.typeName t = .ok name
  /-- No node is lost and no declaration added. -/
  count : p.declarations.length = s.nodes.length
  answered : ∀ (d : Nat) (n : Node), s.nodes[d]? = some n → n.Answered p s.nodes d
  /-- The attachments are all annotations in preorder: type, values and locations. -/
  attachments : List.Forall₂ (fun placed attached =>
      AttachmentSpec.Means p.typeId? placed.1 placed.2 attached ∧
        ((placed.2.valueLocations.map Prod.fst).Nodup →
          attached.valueLocations = placed.2.valueLocations))
    (annotations s.nodes) p.attachments

/-! ## Loaded programs -/

section Loaded

variable {s : Snapshot} {p : Program} {n : Node} {d : Nat} {decl : Declaration}

/-- The first type of a loaded program is `void`. -/
theorem typeName_void_of_load (h : s.load = .ok p) : p.typeName TypeId.void = .ok "void" := by
  have hvoid : builtinTypes[TypeId.void]? = some ⟨"void", .void, []⟩ := rfl
  exact (built_of_load h).typeName_builtin hvoid

/-- What a method returns is named by its node; a constructor returns `void`. -/
theorem Node.Describes.typeName_returns (h : n.Describes p.typeId? decl)
    (hvoid : p.typeName TypeId.void = .ok "void") (hp : p.Indexed) (hshape : n.spec.WellShaped)
    (hkind : n.spec.kind.isExecutable = true) :
    p.typeName (decl.returns?.getD TypeId.void) = .ok (n.spec.returns?.getD "void") := by
  cases hk : n.spec.kind with
  | method =>
      obtain ⟨-, -, t, ht, hreturns⟩ := h.of_method hk
      rw [hreturns]
      exact hp.typeName_of_typeId? ht
  | constructor =>
      simp only [DeclSpec.WellShaped, hk] at hshape
      rw [(h.of_constructor hk).2.2, hshape.2.2.1]
      exact hvoid
  | _ => simp [hk, Kind.isExecutable] at hkind

/-- A declaration that holds what a node writes answers with it. -/
theorem Node.Becomes.answered (hvoid : p.typeName TypeId.void = .ok "void") (hp : p.Indexed)
    (hn : s.nodes[d]? = some n) (hshape : n.spec.WellShaped)
    (hattachments : List.Forall₂ (fun placed => AttachmentSpec.Means p.typeId? placed.1 placed.2)
      (annotations s.nodes) p.attachments)
    (hdecl : p.declarations[d]? = some decl) (h : n.Becomes p.typeId? s.nodes d decl) :
    n.Answered p s.nodes d := by
  have hname {name : String} {t : TypeId} (ht : p.typeId? name = some t) :
      p.typeName t = .ok name := hp.typeName_of_typeId? ht
  have hstand {names : List String} {types : List TypeId} (hs : StandFor p.typeId? names types) :
      List.Forall₂ (fun written t => p.typeName t = .ok written) names types :=
    List.Forall₂.imp (fun _ _ ht => hname ht) hs
  have hexecutable : n.spec.kind.isExecutable = true → decl.kind.isExecutable = true := by
    rw [h.kind]
    exact id
  refine
    { kind := by rw [Program.kindOf_eq hdecl, h.kind]
      modifiers := ⟨decl.modifiers, Program.modifiersOf_eq hdecl, fun m => by
        rw [h.modifiers, ModifierSet.has_ofList]⟩
      enclosing := by rw [Program.enclosingOf_eq hdecl, h.enclosing]
      members := ⟨_, (Program.membersOf_eq hdecl).trans (by rw [h.members]),
        pairwise_childrenIn 0 s.nodes d, fun _ => mem_map_childrenIn_iff, forall₂_childrenIn hn⟩
      location := by rw [Program.locationOf?_eq hdecl, h.location]
      attachments := ⟨_, (Program.attachmentsOf_eq hdecl).trans (by rw [h.attachments]), rfl,
        (attachments_at hattachments hn).imp fun a spec ⟨attached, ha, hmeans⟩ =>
          ⟨attached, Program.attachment_eq ha, hmeans⟩⟩
      declaredType := fun hkind => ?_
      methodName := fun hkind => ?_
      constructorName := fun hkind => ?_
      fieldName := fun hkind => ?_
      fieldType := fun hkind => ?_
      parameters := fun hkind => ?_
      returns := fun hkind => ?_
      constructorReturns := fun hkind => ?_ }
  · obtain ⟨hsegment, t, ht, htype⟩ := h.of_isType hkind
    exact ⟨t, lastSegment n.spec.name, Program.typeOf_eq hdecl htype, hname ht,
      (Program.nameOf_eq hdecl).trans (by rw [hsegment]), isLastSegment_lastSegment _⟩
  · rw [Program.nameOf_eq hdecl, (h.of_method hkind).1]
  · rw [Program.nameOf_eq hdecl, (h.of_constructor hkind).1]
    rfl
  · rw [Program.nameOf_eq hdecl, (h.of_field hkind).1]
  · obtain ⟨-, t, ht, htype⟩ := h.of_field hkind
    -- a field of the right shape writes its type
    simp only [DeclSpec.WellShaped, hkind] at hshape
    obtain ⟨written, hwritten⟩ := Option.ne_none_iff_exists'.1 hshape.2.2.2.2
    rw [hwritten, Option.getD_some] at ht
    exact ⟨written, t, hwritten, Program.typeOf_eq hdecl htype, hname ht⟩
  · exact ⟨decl.parameters, Program.parametersOf_eq hdecl (hexecutable hkind),
      hstand (h.of_isExecutable hkind)⟩
  · exact ⟨_, Program.returnTypeOf_eq hdecl (hexecutable hkind),
      h.typeName_returns hvoid hp hshape hkind⟩
  · simp only [DeclSpec.WellShaped, hkind] at hshape
    exact hshape.2.2.1

/-- A loaded program is faithful to its snapshot. -/
theorem faithful_of_load (h : s.load = .ok p) : s.Faithful p := by
  obtain ⟨hindexed, hholds⟩ := holds_of_load h
  have hacceptable := acceptable_of_load h
  refine ⟨fun name t => hindexed.typeId?_eq_some_iff, hholds.length_declarations, fun d n hn => ?_,
    ?_⟩
  · obtain ⟨decl, hdecl, hbecomes⟩ := hholds.declaration d n hn
    exact hbecomes.answered (typeName_void_of_load h) hindexed hn
      (hacceptable.shaped n (List.mem_of_getElem? hn)) hholds.attachments hdecl
  · refine hholds.attachments.imp fun placed attached hmeans => ⟨hmeans, fun hnodup => ?_⟩
    rw [hmeans.valueLocations, Keyed.ofList_of_nodup hnodup]

end Loaded

/-- A class with a class inside it before a method; annotations on all three. -/
def nestedExample : Snapshot where
  types := [{ name := "a.Mark" }]
  declarations := [{
    kind := .classType, name := "b.Outer", modifiers := [.isPublic]
    attachments := [{ type := "a.Mark", values := [("value", .str "outer")] }]
    members := [
      { kind := .classType, name := "b.Outer.Inner", attachments := [{ type := "a.Mark" }],
        members := [{ kind := .field, name := "held", type? := some "b.Outer" }] },
      { kind := .method, name := "run", modifiers := [.isPublic, .isStatic],
        parameters := ["int", "b.Outer.Inner"], returns? := some "boolean",
        attachments := [{ type := "a.Mark" }, { type := "a.Mark" }] }] }]

theorem exists_faithful_nestedExample :
    ∃ p, nestedExample.load = .ok p ∧ nestedExample.Faithful p := by
  have hok : nestedExample.load.isOk = true := by decide +kernel
  cases h : nestedExample.load with
  | ok p => exact ⟨p, rfl, faithful_of_load h⟩
  | error e => simp [h, Except.isOk, Except.toBool] at hok

end Snapshot

end ModContracts
