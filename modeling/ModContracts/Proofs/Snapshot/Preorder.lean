import ModContracts.Snapshot.Load
import Mathlib.Data.List.Forall2

/-!
# Snapshots in preorder

The declarations of a snapshot form a forest. Listing it in preorder gives every declaration a
number, its place in the list, and lets what is said about the forest be said about a list.

* `Snapshot.Node`, `Snapshot.nodes` — the declarations in preorder, each with the number of the
  declaration around it;
* `DeclSpec.forest_induction` — induction on forests: a first tree, and the trees after it;
* `DeclSpec.parent_of_mem_nodes` — a declaration comes after the one around it;
* `DeclSpec.childrenIn_nodesOfAll` — the nodes around which a declaration stands are the
  declarations written inside it, in the order in which they are written.
-/

namespace ModContracts

/-- A declaration of a snapshot, with the number of the declaration around it. -/
structure Snapshot.Node where
  spec : DeclSpec
  parent? : Option Nat

namespace DeclSpec

/-! ## Numbering -/

mutual

/-- The number of declarations in a declaration, itself included. -/
def size : DeclSpec → Nat
  | ⟨_, _, _, _, _, _, _, _, members, _⟩ => 1 + sizeOfAll members

/-- The number of declarations in some declarations. -/
def sizeOfAll : List DeclSpec → Nat
  | [] => 0
  | spec :: rest => size spec + sizeOfAll rest

end

mutual

/-- A declaration and everything inside it in preorder, numbered from `first` on. -/
def nodes (first : Nat) (parent? : Option Nat) : DeclSpec → List Snapshot.Node
  | ⟨kind, name, modifiers, supertypes, type?, parameters, returns?, attachments, members,
      location?⟩ =>
    ⟨⟨kind, name, modifiers, supertypes, type?, parameters, returns?, attachments, members,
      location?⟩, parent?⟩ :: nodesOfAll (first + 1) (some first) members

/-- Some declarations beside each other and everything inside them in preorder. -/
def nodesOfAll (first : Nat) (parent? : Option Nat) : List DeclSpec → List Snapshot.Node
  | [] => []
  | spec :: rest => nodes first parent? spec ++ nodesOfAll (first + size spec) parent? rest

end

/-- The numbers of declarations beside each other, the first of which has the number `first`. -/
def numbered (first : Nat) : List DeclSpec → List (Nat × DeclSpec)
  | [] => []
  | spec :: rest => (first, spec) :: numbered (first + size spec) rest

end DeclSpec

/-- The declarations of a snapshot in preorder. -/
def Snapshot.nodes (s : Snapshot) : List Snapshot.Node :=
  DeclSpec.nodesOfAll 0 none s.declarations

/-! ## Induction on forests -/

namespace DeclSpec

variable {motive : List DeclSpec → Prop}

mutual

/-- Induction on the forest inside a declaration. -/
theorem members_induction (nil : motive [])
    (cons : ∀ spec rest, motive spec.members → motive rest → motive (spec :: rest)) :
    ∀ spec : DeclSpec, motive spec.members
  | ⟨_, _, _, _, _, _, _, _, members, _⟩ => forest_induction nil cons members

/-- Induction on forests: what holds of the forest inside the first tree and of the trees after it
holds of all of them. -/
theorem forest_induction (nil : motive [])
    (cons : ∀ spec rest, motive spec.members → motive rest → motive (spec :: rest)) :
    ∀ specs : List DeclSpec, motive specs
  | [] => nil
  | spec :: rest => cons spec rest (members_induction nil cons spec) (forest_induction nil cons rest)

end

theorem size_eq (spec : DeclSpec) : spec.size = 1 + sizeOfAll spec.members := by
  cases spec
  rfl

theorem nodesOfAll_cons (first : Nat) (parent? : Option Nat) (spec : DeclSpec)
    (rest : List DeclSpec) :
    nodesOfAll first parent? (spec :: rest) =
      ⟨spec, parent?⟩ :: (nodesOfAll (first + 1) (some first) spec.members ++
        nodesOfAll (first + spec.size) parent? rest) := by
  cases spec
  rfl

@[simp] theorem length_nodesOfAll (specs : List DeclSpec) (first : Nat)
    (parent? : Option Nat) : (nodesOfAll first parent? specs).length = sizeOfAll specs := by
  induction specs using forest_induction generalizing first parent? with
  | nil => rfl
  | cons spec rest ihMembers ihRest =>
      rw [nodesOfAll_cons, List.length_cons, List.length_append, ihMembers, ihRest, sizeOfAll,
        size_eq]
      omega

/-- A declaration inside another one comes after it: nodes numbered from `first` on stand in
`parent?`, or in a node with a smaller number. -/
theorem parent_of_getElem? {specs : List DeclSpec} {first : Nat} {parent? : Option Nat}
    {i : Nat} {n : Snapshot.Node} (h : (nodesOfAll first parent? specs)[i]? = some n) :
    n.parent? = parent? ∨ ∃ d, n.parent? = some d ∧ first ≤ d ∧ d < first + i := by
  induction specs using forest_induction generalizing first parent? i with
  | nil => simp [nodesOfAll] at h
  | cons spec rest ihMembers ihRest =>
      rw [nodesOfAll_cons] at h
      cases i with
      | zero =>
          obtain rfl : ⟨spec, parent?⟩ = n := by simpa using h
          exact .inl rfl
      | succ j =>
          rw [List.getElem?_cons_succ, List.getElem?_append, length_nodesOfAll] at h
          -- the node is inside the first tree, or in one of the trees after it
          split at h
          case isTrue hj =>
              rcases ihMembers h with hp | ⟨d, hp, hle, hlt⟩
              · exact .inr ⟨first, hp, by omega, by omega⟩
              · exact .inr ⟨d, hp, by omega, by omega⟩
          case isFalse hj =>
              rcases ihRest h with hp | ⟨d, hp, hle, hlt⟩
              · exact .inl hp
              · have hsize := spec.size_eq
                exact .inr ⟨d, hp, by omega, by omega⟩

/-- The parent of a node is the one around all of them, or one of them. -/
theorem parent_of_mem_nodes {specs : List DeclSpec} {first : Nat} {parent? : Option Nat}
    {n : Snapshot.Node} (h : n ∈ nodesOfAll first parent? specs) :
    n.parent? = parent? ∨ ∃ d, n.parent? = some d ∧ first ≤ d ∧ d < first + sizeOfAll specs := by
  obtain ⟨i, hi⟩ := List.mem_iff_getElem?.1 h
  have hlt : i < sizeOfAll specs := by
    rw [← length_nodesOfAll specs first parent?]
    exact (List.getElem?_eq_some_iff.1 hi).1
  rcases parent_of_getElem? hi with hp | ⟨d, hp, hle, hd⟩
  · exact .inl hp
  · exact .inr ⟨d, hp, hle, by omega⟩

end DeclSpec

/-! ## Children -/

/-- The nodes that stand in a declaration, among nodes numbered from `first` on. -/
def Snapshot.childrenIn (first : Nat) (ns : List Snapshot.Node) (d : Nat) :
    List (Nat × DeclSpec) :=
  (ns.zipIdx first).filterMap fun (n, e) => if n.parent? = some d then some (e, n.spec) else none

namespace Snapshot

variable {first d e : Nat} {ns : List Node} {n : Node} {spec : DeclSpec}

@[simp] theorem childrenIn_nil : childrenIn first [] d = [] := rfl

theorem childrenIn_cons_of_parent (h : n.parent? = some d) :
    childrenIn first (n :: ns) d = (first, n.spec) :: childrenIn (first + 1) ns d := by
  simp [childrenIn, h]

theorem childrenIn_cons_of_ne (h : n.parent? ≠ some d) :
    childrenIn first (n :: ns) d = childrenIn (first + 1) ns d := by
  simp [childrenIn, h]

theorem childrenIn_append (first : Nat) (ns ms : List Node) (d : Nat) :
    childrenIn first (ns ++ ms) d =
      childrenIn first ns d ++ childrenIn (first + ns.length) ms d := by
  simp [childrenIn, List.zipIdx_append]

theorem childrenIn_eq_nil (h : ∀ n ∈ ns, n.parent? ≠ some d) : childrenIn first ns d = [] := by
  induction ns generalizing first with
  | nil => rfl
  | cons n rest ih =>
      rw [childrenIn_cons_of_ne (h n (by simp))]
      exact ih fun m hm => h m (by simp [hm])

/-- A child of a declaration is a node that stands in it. -/
theorem mem_childrenIn_iff :
    (e, spec) ∈ childrenIn 0 ns d ↔ ns[e]? = some ⟨spec, some d⟩ := by
  simp only [childrenIn, List.mem_filterMap, Prod.exists, List.mem_zipIdx_iff_getElem?]
  constructor
  · intro h
    obtain ⟨n, i, hn, hif⟩ := h
    split at hif
    · rename_i hp
      obtain ⟨rfl, rfl⟩ := by simpa using hif
      rw [hn, ← hp]
    · simp at hif
  · intro h
    exact ⟨⟨spec, some d⟩, e, h, by simp⟩

/-- The numbers of the children of a declaration. -/
theorem mem_map_childrenIn_iff :
    e ∈ (childrenIn 0 ns d).map Prod.fst ↔ ∃ m, ns[e]? = some m ∧ m.parent? = some d := by
  rw [List.mem_map]
  constructor
  · intro h
    obtain ⟨⟨i, spec⟩, hmem, rfl⟩ := h
    exact ⟨_, mem_childrenIn_iff.1 hmem, rfl⟩
  · intro h
    obtain ⟨⟨spec, parent?⟩, hm, rfl⟩ := h
    exact ⟨(e, spec), mem_childrenIn_iff.2 hm, rfl⟩

/-- Children are listed by increasing number. -/
theorem pairwise_childrenIn (first : Nat) (ns : List Node) (d : Nat) :
    ((childrenIn first ns d).map Prod.fst).Pairwise (· < ·) := by
  induction ns generalizing first with
  | nil => simp
  | cons n rest ih =>
      by_cases h : n.parent? = some d
      · rw [childrenIn_cons_of_parent h, List.map_cons, List.pairwise_cons]
        refine ⟨fun e he => ?_, ih (first + 1)⟩
        obtain ⟨⟨e, spec⟩, hmem, rfl⟩ := List.mem_map.1 he
        obtain ⟨⟨m, i⟩, hm, hif⟩ := List.mem_filterMap.1 hmem
        have hle : first + 1 ≤ i := List.le_snd_of_mem_zipIdx hm
        simp only [Option.ite_none_right_eq_some, Option.some.injEq, Prod.mk.injEq] at hif
        omega
      · rw [childrenIn_cons_of_ne h]
        exact ih (first + 1)

end Snapshot

namespace DeclSpec

open Snapshot

/-- A declaration that is neither in a forest nor around it has no node of it inside. -/
theorem childrenIn_of_outside {base first d : Nat} {parent? : Option Nat} {specs : List DeclSpec}
    (hparent : parent? ≠ some d) (hd : d < first ∨ first + sizeOfAll specs ≤ d) :
    childrenIn base (nodesOfAll first parent? specs) d = [] := by
  refine childrenIn_eq_nil fun n hn hp => ?_
  rcases parent_of_mem_nodes hn with hp' | ⟨e, hp', hle, hlt⟩
  · exact hparent (hp' ▸ hp)
  · rw [hp', Option.some.injEq] at hp
    omega

/-- The nodes that stand in the declaration around a forest are its trees. -/
theorem childrenIn_parent {first d : Nat} (h : d < first) (specs : List DeclSpec) :
    childrenIn first (nodesOfAll first (some d) specs) d = numbered first specs := by
  induction specs using forest_induction generalizing first d with
  | nil => rfl
  | cons spec rest _ ihRest =>
      have hne : some first ≠ some d := fun heq => Nat.ne_of_gt h (Option.some.inj heq)
      have hinside : childrenIn (first + 1) (nodesOfAll (first + 1) (some first) spec.members) d
          = [] := childrenIn_of_outside hne (Or.inl (Nat.lt_succ_of_lt h))
      have hnext : first + 1 + sizeOfAll spec.members = first + spec.size := by
        rw [size_eq]
        omega
      rw [nodesOfAll_cons, childrenIn_cons_of_parent rfl, childrenIn_append, hinside,
        List.nil_append, length_nodesOfAll, hnext, ihRest (by omega), numbered]

/-- The nodes that stand in a declaration of a forest are the declarations written inside it. -/
theorem childrenIn_nodesOfAll {first : Nat} {parent? : Option Nat} {specs : List DeclSpec}
    {i : Nat} {n : Snapshot.Node} (hparent : ∀ d, parent? = some d → d < first)
    (h : (nodesOfAll first parent? specs)[i]? = some n) :
    childrenIn first (nodesOfAll first parent? specs) (first + i) =
      numbered (first + i + 1) n.spec.members := by
  induction specs using forest_induction generalizing first parent? i with
  | nil => simp [nodesOfAll] at h
  | cons spec rest ihMembers ihRest =>
      -- a node of the forest never stands around its first tree
      have hhead : (⟨spec, parent?⟩ : Snapshot.Node).parent? ≠ some (first + i) := fun hp => by
        have := hparent _ hp
        omega
      have hnext : first + 1 + sizeOfAll spec.members = first + spec.size := by
        rw [size_eq]
        omega
      rw [nodesOfAll_cons] at h
      rw [nodesOfAll_cons, childrenIn_cons_of_ne hhead, childrenIn_append, length_nodesOfAll, hnext]
      cases i with
      | zero =>
          -- the first tree: its trees inside come next, and no later tree stands in it
          obtain rfl : ⟨spec, parent?⟩ = n := by simpa using h
          rw [childrenIn_of_outside hhead (Or.inl (by rw [size_eq]; omega)), List.append_nil]
          exact childrenIn_parent (by omega) spec.members
      | succ j =>
          rw [List.getElem?_cons_succ, List.getElem?_append, length_nodesOfAll] at h
          split at h
          case isTrue hj =>
              -- a node inside the first tree has nothing in the trees after it
              have hparent' : ∀ d, some first = some d → d < first + 1 := by
                rintro d ⟨⟩
                omega
              rw [childrenIn_of_outside hhead (Or.inl (by rw [size_eq]; omega)), List.append_nil,
                show first + (j + 1) = first + 1 + j by omega]
              exact ihMembers hparent' h
          case isFalse hj =>
              -- a node of a later tree has nothing in the first one
              have hne : some first ≠ some (first + (j + 1)) := by simp
              have hplace : first + (j + 1) = first + spec.size + (j - sizeOfAll spec.members) := by
                rw [size_eq]
                omega
              rw [childrenIn_of_outside hne (Or.inr (by omega)), List.nil_append, hplace]
              exact ihRest (fun d hd => by have := hparent d hd; omega) h

@[simp] theorem map_snd_numbered (first : Nat) (specs : List DeclSpec) :
    (numbered first specs).map Prod.snd = specs := by
  induction specs generalizing first with
  | nil => rfl
  | cons spec rest ih => simp [numbered, ih]

end DeclSpec

/-! ## The forest of a snapshot -/

namespace Snapshot

variable {s : Snapshot} {d : Nat} {n : Node}

/-- A declaration inside another one comes after it. -/
theorem parent_lt {i : Nat} (h : s.nodes[i]? = some n) (hp : n.parent? = some d) : d < i := by
  rcases DeclSpec.parent_of_getElem? h with hp' | ⟨e, hp', -, hlt⟩
  · simp [hp'] at hp
  · rw [hp', Option.some.injEq] at hp
    omega

/-- The nodes that stand in a declaration are the declarations written inside it. -/
theorem childrenIn_nodes (h : s.nodes[d]? = some n) :
    childrenIn 0 s.nodes d = DeclSpec.numbered (d + 1) n.spec.members := by
  have hroot : ∀ e, (none : Option Nat) = some e → e < 0 := by simp
  have hchildren := DeclSpec.childrenIn_nodesOfAll hroot h
  rwa [Nat.zero_add] at hchildren

/-- The nodes that stand in a declaration are those written inside it, in their order. -/
theorem forall₂_childrenIn (hn : s.nodes[d]? = some n) :
    List.Forall₂ (fun e child => s.nodes[e]? = some ⟨child, some d⟩)
      ((childrenIn 0 s.nodes d).map Prod.fst) n.spec.members := by
  have hspecs : (childrenIn 0 s.nodes d).map Prod.snd = n.spec.members := by
    rw [childrenIn_nodes hn, DeclSpec.map_snd_numbered]
  rw [← hspecs, List.forall₂_map_left_iff, List.forall₂_map_right_iff, List.forall₂_same]
  rintro ⟨e, child⟩ hmem
  exact mem_childrenIn_iff.1 hmem

/-- A declaration that stands in another one is written inside it. -/
theorem spec_mem_members {i : Nat} {m : Node} (h : s.nodes[i]? = some n)
    (hp : n.parent? = some d) (hd : s.nodes[d]? = some m) : n.spec ∈ m.spec.members := by
  have hchild : (i, n.spec) ∈ childrenIn 0 s.nodes d := by
    rw [mem_childrenIn_iff, ← hp]
    exact h
  rw [childrenIn_nodes hd] at hchild
  have := List.mem_map_of_mem (f := Prod.snd) hchild
  simpa using this

end Snapshot

end ModContracts
