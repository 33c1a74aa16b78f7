import ModContracts.Proofs.Snapshot.Acceptable

/-!
# What is in a loaded program

Loading puts the nodes of a snapshot into the tables of a program one after another. `Holds` says
what the tables hold after some nodes, and is kept by every node that is loaded next.

* `Snapshot.annotations` — all annotations in preorder, each with the number of its declaration;
* `Snapshot.carriersIn` — the numbers of the declarations that carry an annotation type;
* `Snapshot.Node.Becomes` — the declaration of a node, with what is on it and inside it;
* `Snapshot.Node.Adds` — what loading a node adds to the tables;
* `Snapshot.Holds` — the tables after some nodes; `Snapshot.Holds.snoc` — one node more;
* `Snapshot.holds_of_load` — the tables of a loaded program.
-/

namespace ModContracts

namespace Snapshot

/-! ## Annotations -/

/-- The annotations on some nodes in preorder, each with the number of its declaration. -/
def annotations (ns : List Node) : List (Nat × AttachmentSpec) :=
  ns.zipIdx.flatMap fun (n, d) => n.spec.attachments.map fun spec => (d, spec)

/-- Whether an annotation of a type is written on a node. -/
def Node.wears (ids : TypeIds) (n : Node) (t : TypeId) : Bool :=
  n.spec.attachments.any fun spec => ids spec.type = some t

/-- A node wears the types of the attachments that its annotations become. -/
theorem Node.wears_eq_any {ids : TypeIds} {n : Node} {d : DeclId} {attached : List Attachment}
    (h : List.Forall₂ (AttachmentSpec.Means ids d) n.spec.attachments attached) (t : TypeId) :
    n.wears ids t = attached.any (·.type = t) := by
  unfold wears
  generalize n.spec.attachments = specs at h
  induction h with
  | nil => rfl
  | cons hfirst _ ih => simp only [List.any_cons, hfirst.type, ih, Option.some.injEq]

/-- The numbers of the nodes on which an annotation of a type is written. -/
def carriersIn (ids : TypeIds) (ns : List Node) (t : TypeId) : List Nat :=
  ns.zipIdx.filterMap fun (n, d) => if n.wears ids t then some d else none

section Snoc

variable (ns : List Node) (n : Node)

theorem annotations_prefix (ms : List Node) : annotations ns <+: annotations (ns ++ ms) := by
  rw [annotations, annotations, List.zipIdx_append, List.flatMap_append]
  exact List.prefix_append _ _

theorem annotations_concat :
    annotations (ns ++ [n]) =
      annotations ns ++ n.spec.attachments.map fun spec => (ns.length, spec) := by
  simp [annotations, List.zipIdx_append]

theorem carriersIn_concat (ids : TypeIds) (t : TypeId) :
    carriersIn ids (ns ++ [n]) t =
      carriersIn ids ns t ++ if n.wears ids t then [ns.length] else [] := by
  simp only [carriersIn, List.zipIdx_append, List.filterMap_append, Nat.zero_add]
  by_cases h : n.wears ids t = true <;> simp [h]

theorem childrenIn_concat (d : Nat) :
    childrenIn 0 (ns ++ [n]) d =
      childrenIn 0 ns d ++ if n.parent? = some d then [(ns.length, n.spec)] else [] := by
  rw [childrenIn_append, Nat.zero_add]
  by_cases h : n.parent? = some d
  · rw [childrenIn_cons_of_parent h, if_pos h, childrenIn_nil]
  · rw [childrenIn_cons_of_ne h, if_neg h, childrenIn_nil]

end Snoc

theorem mem_carriersIn_iff {ids : TypeIds} {ns : List Node} {t : TypeId} {d : Nat} :
    d ∈ carriersIn ids ns t ↔ ∃ n, ns[d]? = some n ∧ n.wears ids t = true := by
  simp only [carriersIn, List.mem_filterMap, Prod.exists, List.mem_zipIdx_iff_getElem?,
    Option.ite_none_right_eq_some, Option.some.injEq]
  constructor
  · intro h
    obtain ⟨n, i, hn, hwears, rfl⟩ := h
    exact ⟨n, hn, hwears⟩
  · intro h
    obtain ⟨n, hn, hwears⟩ := h
    exact ⟨n, d, hn, hwears, rfl⟩

/-- The annotations on a node follow those on the nodes before it. -/
theorem annotations_at {ns : List Node} {n : Node} {d : Nat} (hn : ns[d]? = some n) :
    annotations (ns.take d) ++ n.spec.attachments.map (fun spec => (d, spec)) <+:
      annotations ns := by
  have hd : (ns.take d).length = d := List.length_take_of_le
    (Nat.le_of_lt (List.getElem?_eq_some_iff.1 hn).1)
  have hprefix := annotations_prefix (ns.take (d + 1)) (ns.drop (d + 1))
  rwa [List.take_append_drop, List.take_add_one, hn, Option.toList_some, annotations_concat, hd]
    at hprefix

theorem exists_getElem?_of_forall₂ {α β : Type} {R : α → β → Prop} {xs : List α} {ys : List β}
    (h : List.Forall₂ R xs ys) {i : Nat} {x : α} (hx : xs[i]? = some x) :
    ∃ y, ys[i]? = some y ∧ R x y := by
  induction h generalizing i with
  | nil => simp at hx
  | cons hfirst _ ih =>
      cases i with
      | zero =>
          obtain rfl := Option.some.inj hx
          exact ⟨_, rfl, hfirst⟩
      | succ j => exact ih hx

theorem forall₂_range' {α : Type} {R : Nat → α → Prop} {xs : List α} {first : Nat}
    (h : ∀ i x, xs[i]? = some x → R (first + i) x) :
    List.Forall₂ R (List.range' first xs.length) xs := by
  induction xs generalizing first with
  | nil => exact .nil
  | cons x rest ih =>
      rw [List.length_cons, List.range'_succ]
      refine .cons (h 0 x rfl) (ih fun i y hy => ?_)
      rw [Nat.add_right_comm]
      exact h (i + 1) y hy

/-- The attachments of a node are found where the attachments of the nodes before it end. -/
theorem attachments_at {ns : List Node} {n : Node} {d : Nat}
    {attached : List Attachment} {ids : TypeIds}
    (h : List.Forall₂ (fun placed => AttachmentSpec.Means ids placed.1 placed.2)
      (annotations ns) attached) (hn : ns[d]? = some n) :
    List.Forall₂ (fun (a : Nat) spec => ∃ found, attached[a]? = some found ∧
        AttachmentSpec.Means ids d spec found)
      (List.range' (annotations (ns.take d)).length n.spec.attachments.length)
      n.spec.attachments := by
  refine forall₂_range' fun i spec hspec => ?_
  obtain ⟨rest, hrest⟩ := annotations_at hn
  have hplaced : (annotations ns)[(annotations (ns.take d)).length + i]? = some (d, spec) := by
    have hlt : i < n.spec.attachments.length := (List.getElem?_eq_some_iff.1 hspec).1
    rw [← hrest, List.append_assoc, List.getElem?_append_right (Nat.le_add_right _ _),
      Nat.add_sub_cancel_left, List.getElem?_append_left (by simpa using hlt), List.getElem?_map,
      hspec]
    rfl
  exact exists_getElem?_of_forall₂ h hplaced

/-! ## Declarations -/

/-- The declaration of a node among other nodes, with what is on it and inside it. -/
structure Node.Becomes (ids : TypeIds) (ns : List Node) (d : Nat) (n : Node) (decl : Declaration) :
    Prop extends n.Describes ids decl where
  members : decl.members = (childrenIn 0 ns d).map Prod.fst
  /-- The attachments of a declaration follow those of all declarations before it. -/
  attachments : decl.attachments =
    List.range' (annotations (ns.take d)).length n.spec.attachments.length
  location : decl.location? = n.spec.location?

/-- A node introduces the type it is named after. -/
theorem Node.Describes.introduced?_eq_some_iff {ids : TypeIds} {n : Node} {decl : Declaration}
    (h : n.Describes ids decl) {t : TypeId} :
    decl.introduced? = some t ↔ n.spec.kind.isType = true ∧ ids n.spec.name = some t := by
  have hsignature := h.signature
  unfold Signature at hsignature
  unfold Declaration.introduced?
  rw [h.kind]
  cases hkind : n.spec.kind <;> simp only [hkind] at hsignature <;> simp only [Kind.isType] <;>
    first
    | obtain ⟨-, ⟨u, hu, htype⟩, -⟩ := hsignature
      simp [hu, htype]
    | simp

variable {ns : List Node} {n : Node} {p q : Program}

/-- What loading a node adds to the tables: its declaration, which is also listed with the one around
it, and what is written on it. -/
structure Node.Adds (n : Node) (p q : Program) (decl : Declaration) (attached : List Attachment) :
    Prop extends n.Describes p.typeId? decl where
  members : decl.members = []
  ids : decl.attachments = List.range' p.attachments.length n.spec.attachments.length
  location : decl.location? = n.spec.location?
  means : List.Forall₂ (AttachmentSpec.Means p.typeId? p.declarations.length) n.spec.attachments
    attached
  typeId? : q.typeId? = p.typeId?
  length_declarations : q.declarations.length = p.declarations.length + 1
  declarations : ∀ d, q.declarations[d]? =
    if d = p.declarations.length then some decl
    else p.declarations[d]?.map fun around =>
      if n.parent? = some d then
        { around with members := around.members ++ [p.declarations.length] }
      else around
  attachments : q.attachments = p.attachments ++ attached
  introducing : ∀ t, q.introducing? t =
    if decl.introduced? = some t then some p.declarations.length else p.introducing? t
  carriersOf : ∀ t, q.carriersOf t =
    if n.wears p.typeId? t = true ∧ (p.carriersOf t).getLast? ≠ some p.declarations.length then
      p.carriersOf t ++ [p.declarations.length]
    else p.carriersOf t

theorem Node.exists_adds (hp : p.Indexed)
    (hparent : ∀ owner, n.parent? = some owner → owner < p.declarations.length)
    (h : n.load p = .ok q) : ∃ decl attached, n.Adds p q decl attached := by
  obtain ⟨hnames, hcount⟩ := load_frame hp h
  obtain ⟨-, head, attached, hhead, hattached, rfl⟩ := (load_eq_ok_iff hp).1 h
  have howner := AttachmentSpec.owner_of_means hattached
  have hlength : attached.length = n.spec.attachments.length := hattached.length_eq.symm
  -- a declaration placed right after it was entered is entered with its location
  rw [Program.place_enter p n.spec.location? hhead.location
    (by rw [hhead.enclosing]; exact hparent)] at hnames hcount ⊢
  generalize hplaced : ({ head with location? := n.spec.location? } : Declaration) = placed
    at hnames hcount ⊢
  have henclosing : placed.enclosing? = n.parent? := by rw [← hplaced]; exact hhead.enclosing
  let ids := List.range' p.attachments.length n.spec.attachments.length
  refine ⟨{ placed with attachments := ids }, attached, ?_⟩
  exact {
    kind := by rw [← hplaced]; exact hhead.kind
    modifiers := by rw [← hplaced]; exact hhead.modifiers
    enclosing := henclosing
    signature := by rw [← hplaced]; exact hhead.signature
    members := by rw [← hplaced]; exact hhead.members
    ids := rfl
    location := by rw [← hplaced]
    means := hattached
    typeId? := hnames.typeId?_eq
    length_declarations := hcount
    declarations := fun d => by
      have hnone : placed.attachments = [] := by rw [← hplaced]; exact hhead.attachments
      rw [Program.getElem?_affixAll_enter (by rw [henclosing]; exact hparent) howner, henclosing,
        hlength, hnone, List.nil_append]
    attachments := by rw [Program.attachments_affixAll, Program.attachments_enter]
    introducing := fun t => by
      rw [Program.introducing?_affixAll, Program.introducing?_enter]
      rfl
    carriersOf := fun t => by
      rw [Program.carriersOf_affixAll howner, Program.carriersOf_enter]
      simp only [wears_eq_any hattached, List.any_eq_true, decide_eq_true_eq] }

/-- A node keeps what it became when a node is added after it. If that one stands inside it, it is
its last member. -/
theorem Node.Becomes.concat {ids : TypeIds} {m : Node} {d : Nat} {decl : Declaration}
    (h : m.Becomes ids ns d decl) (hd : d < ns.length) :
    m.Becomes ids (ns ++ [n]) d
      (if n.parent? = some d then { decl with members := decl.members ++ [ns.length] }
      else decl) := by
  have htake : (ns ++ [n]).take d = ns.take d := List.take_append_of_le_length (Nat.le_of_lt hd)
  have hids := h.attachments
  rw [← htake] at hids
  by_cases hparent : n.parent? = some d
  · rw [if_pos hparent]
    -- only the members change
    refine ⟨⟨h.kind, h.modifiers, h.enclosing, h.signature⟩, ?_, hids, h.location⟩
    rw [childrenIn_concat, if_pos hparent, List.map_append, ← h.members]
    rfl
  · rw [if_neg hparent]
    refine ⟨h.toDescribes, ?_, hids, h.location⟩
    rw [childrenIn_concat, if_neg hparent, List.append_nil, h.members]

/-! ## Tables -/

/-- What the tables of a program hold once some nodes are loaded. -/
structure Holds (ns : List Node) (p : Program) : Prop where
  length_declarations : p.declarations.length = ns.length
  /-- What stands inside a declaration stands inside one of these. -/
  parent : ∀ n ∈ ns, ∀ d, n.parent? = some d → d < ns.length
  declaration : ∀ (d : Nat) (n : Node), ns[d]? = some n →
    ∃ decl, p.declarations[d]? = some decl ∧ n.Becomes p.typeId? ns d decl
  attachments : List.Forall₂ (fun placed => AttachmentSpec.Means p.typeId? placed.1 placed.2)
    (annotations ns) p.attachments
  carriersOf : ∀ t, p.carriersOf t = carriersIn p.typeId? ns t
  /-- A type is introduced by a node that declares it. -/
  declares : ∀ t d, p.introducing? t = some d →
    ∃ n, ns[d]? = some n ∧ n.spec.kind.isType = true ∧ p.typeId? n.spec.name = some t
  /-- A type that some node declares is introduced. -/
  declared : ∀ n ∈ ns, n.spec.kind.isType = true → ∀ t, p.typeId? n.spec.name = some t →
    ∃ d, p.introducing? t = some d

theorem Holds.of_bare (h : p.Bare) : Holds [] p where
  length_declarations := by rw [h.declarations]; rfl
  parent := by simp
  declaration := by simp
  attachments := by rw [h.attachments]; exact .nil
  carriersOf t := by rw [Program.carriersOf, h.carriers]; rfl
  declares t d := by simp [Program.introducing?, h.introducedBy, Keyed.find?]
  declared := by simp

/-! ### One node more -/

section Snoc

variable {decl : Declaration} {attached : List Attachment}

/-- All nodes stand inside one of those before the new one. -/
theorem Holds.parent_concat (h : Holds ns p)
    (hparent : ∀ owner, n.parent? = some owner → owner < ns.length) :
    ∀ m ∈ ns ++ [n], ∀ d, m.parent? = some d → d < ns.length := by
  intro m hm d hd
  rcases List.mem_append.1 hm with hm | hm
  · exact h.parent m hm d hd
  · obtain rfl := List.mem_singleton.1 hm
    exact hparent d hd

theorem Holds.declaration_concat (h : Holds ns p) (hadds : n.Adds p q decl attached)
    (hparent : ∀ owner, n.parent? = some owner → owner < ns.length) {d : Nat} {m : Node}
    (hm : (ns ++ [n])[d]? = some m) :
    ∃ decl, q.declarations[d]? = some decl ∧ m.Becomes p.typeId? (ns ++ [n]) d decl := by
  rw [hadds.declarations, h.length_declarations]
  rw [getElem?_concat_eq_ite] at hm
  by_cases hd : d = ns.length
  · -- the new node: nothing is inside it yet
    rw [if_pos hd] at hm ⊢
    obtain rfl := Option.some.inj hm
    have hchildren : childrenIn 0 (ns ++ [n]) d = [] := by
      refine childrenIn_eq_nil fun m hm hd' => ?_
      have hlt := h.parent_concat hparent m hm d hd'
      exact Nat.ne_of_lt hlt hd
    refine ⟨decl, rfl, hadds.toDescribes, ?_, ?_, hadds.location⟩
    · rw [hchildren, hadds.members]
      rfl
    · rw [hadds.ids, hd, List.take_left, h.attachments.length_eq]
  · rw [if_neg hd] at hm ⊢
    obtain ⟨around, haround, hbecomes⟩ := h.declaration d m hm
    rw [haround, Option.map_some]
    exact ⟨_, rfl, hbecomes.concat (List.getElem?_eq_some_iff.1 hm).1⟩

/-- The new declaration is listed with the carriers of a type exactly if it wears the type: none of
the declarations listed so far is the new one. -/
theorem Holds.carriersOf_concat (h : Holds ns p) (hadds : n.Adds p q decl attached) (t : TypeId) :
    q.carriersOf t = carriersIn p.typeId? (ns ++ [n]) t := by
  have hlast : (carriersIn p.typeId? ns t).getLast? ≠ some ns.length := by
    intro hlast
    obtain ⟨m, hm, -⟩ := mem_carriersIn_iff.1 (List.mem_of_getLast? hlast)
    exact Nat.lt_irrefl _ (List.getElem?_eq_some_iff.1 hm).1
  rw [hadds.carriersOf, h.carriersOf, h.length_declarations, carriersIn_concat]
  by_cases hwears : n.wears p.typeId? t = true <;> simp [hwears, hlast]

theorem Holds.declares_concat (h : Holds ns p) (hadds : n.Adds p q decl attached) {t : TypeId}
    {d : DeclId} (hd : q.introducing? t = some d) :
    ∃ m, (ns ++ [n])[d]? = some m ∧ m.spec.kind.isType = true ∧
      p.typeId? m.spec.name = some t := by
  rw [hadds.introducing, h.length_declarations] at hd
  by_cases hnew : decl.introduced? = some t
  · rw [if_pos hnew] at hd
    obtain rfl := Option.some.inj hd
    exact ⟨n, List.getElem?_concat_length, hadds.introduced?_eq_some_iff.1 hnew⟩
  · rw [if_neg hnew] at hd
    obtain ⟨m, hm, hdeclares⟩ := h.declares t d hd
    have hlt : d < ns.length := (List.getElem?_eq_some_iff.1 hm).1
    exact ⟨m, by rw [List.getElem?_append_left hlt, hm], hdeclares⟩

theorem Holds.declared_concat (h : Holds ns p) (hadds : n.Adds p q decl attached) {m : Node}
    (hm : m ∈ ns ++ [n]) (hkind : m.spec.kind.isType = true) {t : TypeId}
    (ht : p.typeId? m.spec.name = some t) : ∃ d, q.introducing? t = some d := by
  rw [hadds.introducing]
  by_cases hnew : decl.introduced? = some t
  · exact ⟨p.declarations.length, if_pos hnew⟩
  · rw [if_neg hnew]
    rcases List.mem_append.1 hm with hm | hm
    · exact h.declared m hm hkind t ht
    · obtain rfl := List.mem_singleton.1 hm
      exact absurd (hadds.introduced?_eq_some_iff.2 ⟨hkind, ht⟩) hnew

/-- A node that is loaded next is held too. -/
theorem Holds.snoc (hp : p.Indexed) (h : Holds ns p)
    (hparent : ∀ owner, n.parent? = some owner → owner < ns.length) (hload : n.load p = .ok q) :
    Holds (ns ++ [n]) q := by
  have hparent' : ∀ owner, n.parent? = some owner → owner < p.declarations.length := by
    rw [h.length_declarations]
    exact hparent
  obtain ⟨decl, attached, hadds⟩ := Node.exists_adds hp hparent' hload
  have hlength : (ns ++ [n]).length = ns.length + 1 := List.length_append
  exact {
    length_declarations := by rw [hadds.length_declarations, h.length_declarations, hlength]
    parent := fun m hm d hd => by
      rw [hlength]
      exact Nat.lt_succ_of_lt (h.parent_concat hparent m hm d hd)
    declaration := fun d m hm => hadds.typeId? ▸ h.declaration_concat hadds hparent hm
    attachments := by
      rw [hadds.typeId?, hadds.attachments, annotations_concat]
      refine List.rel_append h.attachments ?_
      rw [List.forall₂_map_left_iff, ← h.length_declarations]
      exact hadds.means
    carriersOf := fun t => hadds.typeId? ▸ h.carriersOf_concat hadds t
    declares := fun t d hd => hadds.typeId? ▸ h.declares_concat hadds hd
    declared := fun m hm hkind t ht => h.declared_concat hadds hm hkind (hadds.typeId? ▸ ht) }

end Snoc

/-- Nodes that are loaded one after another are held, as long as each stands inside one before it. -/
theorem Holds.loadNodes {rest : List Node} (hp : p.Indexed) (h : Holds ns p)
    (hparent : ∀ (i : Nat) (m : Node) (d : Nat), rest[i]? = some m → m.parent? = some d →
      d < ns.length + i)
    (hload : loadNodes p rest = .ok q) : Holds (ns ++ rest) q := by
  induction rest generalizing ns p with
  | nil =>
      obtain rfl : p = q := by simpa using hload
      rwa [List.append_nil]
  | cons m rest ih =>
      rw [loadNodes_cons] at hload
      obtain ⟨r, hr, hload⟩ := bind_eq_ok_iff.1 hload
      obtain ⟨hnames, -⟩ := Node.load_frame hp hr
      have hnext : Holds (ns ++ [m]) r := h.snoc hp (fun d hd => hparent 0 m d rfl hd) hr
      rw [← List.singleton_append, ← List.append_assoc]
      refine ih (hnames.indexed hp) hnext ?_ hload
      intro i m' d hm hd
      have hlt := hparent (i + 1) m' d hm hd
      rw [List.length_append, List.length_singleton]
      omega

/-- A loaded program holds the nodes of its snapshot. -/
theorem holds_of_load {s : Snapshot} (h : s.load = .ok p) : p.Indexed ∧ Holds s.nodes p := by
  obtain ⟨q, hq, -⟩ := bind_eq_ok_iff.1 h
  obtain ⟨hindexed, hbare, -⟩ := loadTypes_ok hq
  rw [load_eq_loadNodes hq] at h
  obtain ⟨hnames, -⟩ := loadNodes_frame hindexed h
  refine ⟨hnames.indexed hindexed, ?_⟩
  have hparent : ∀ (i : Nat) (m : Node) (d : Nat), s.nodes[i]? = some m → m.parent? = some d →
      d < ([] : List Node).length + i := by
    intro i m d hm hd
    rw [List.length_nil, Nat.zero_add]
    exact parent_lt hm hd
  have hholds := (Holds.of_bare hbare).loadNodes hindexed hparent h
  rwa [List.nil_append] at hholds

end Snapshot

end ModContracts
