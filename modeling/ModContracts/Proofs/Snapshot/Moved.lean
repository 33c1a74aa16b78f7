import ModContracts.Proofs.Snapshot.Aligned
import Mathlib.Data.List.Sort
import Mathlib.Logic.Equiv.Basic

/-!
# Top-level declarations in another order

When the declarations at the top of a snapshot change places, everything inside them moves along, and
all numbers change. What stays is what every declaration says, which one it stands in, and the order of
the declarations beside it inside that one.

* `exchange` — two adjacent blocks of numbers change places;
* `Snapshot.Moved` — nodes under other numbers; `Snapshot.Moved.trans` — moved once more;
* `DeclSpec.moved_exchange` — two parts of a forest change places;
* `Snapshot.Rearranged` — snapshots whose top-level declarations are in another order;
* `Snapshot.Rearranged.exists_moved` — their nodes are moved;
* `Snapshot.Rearranged.exists_load_iff` — both can be loaded, or neither.
-/

namespace ModContracts

/-! ## Blocks of numbers -/

/-- The numbers from `first` on in two blocks, `m` of them and then `n`, change places. -/
def exchange (first m n d : Nat) : Nat :=
  if d < first then d
  else if d < first + m then d + n
  else if d < first + m + n then d - m
  else d

section Exchange

variable (first m n d : Nat)

/-- Changing places once more brings all numbers back. -/
theorem exchange_exchange : exchange first n m (exchange first m n d) = d := by
  unfold exchange
  split_ifs <;> omega

/-- The exchange of two blocks as a renumbering. -/
def exchangePerm : Equiv.Perm Nat where
  toFun := exchange first m n
  invFun := exchange first n m
  left_inv := exchange_exchange first m n
  right_inv := exchange_exchange first n m

/-- What is not in the first block keeps its place before what is not in the second. -/
theorem exchange_lt {d e : Nat} (hlt : d < e)
    (h : ¬ (first ≤ d ∧ d < first + m ∧ first + m ≤ e ∧ e < first + m + n)) :
    exchange first m n d < exchange first m n e := by
  unfold exchange
  split_ifs <;> omega

variable {α : Type} {as xs ys bs : List α}

/-- When two parts of a list change places, so do their numbers. -/
theorem getElem?_exchange (has : as.length = first) (hxs : xs.length = m) (hys : ys.length = n) :
    (as ++ (ys ++ (xs ++ bs)))[exchange first m n d]? = (as ++ (xs ++ (ys ++ bs)))[d]? := by
  subst has hxs hys
  unfold exchange
  split_ifs with h₁ h₂ h₃
  · rw [List.getElem?_append_left h₁, List.getElem?_append_left h₁]
  · rw [List.getElem?_append_right (by omega), List.getElem?_append_right (by omega),
      List.getElem?_append_left (by omega), List.getElem?_append_right (by omega),
      List.getElem?_append_left (by omega)]
    congr 1
    omega
  · rw [List.getElem?_append_right (by omega), List.getElem?_append_left (by omega),
      List.getElem?_append_right (by omega), List.getElem?_append_right (by omega),
      List.getElem?_append_left (by omega)]
    congr 1
    omega
  · rw [List.getElem?_append_right (by omega), List.getElem?_append_right (by omega),
      List.getElem?_append_right (by omega), List.getElem?_append_right (by omega),
      List.getElem?_append_right (by omega), List.getElem?_append_right (by omega)]
    congr 1
    omega

end Exchange

/-! ## Moved nodes -/

namespace Snapshot

/-- A node that stands in a declaration under another number. -/
def Node.move (σ : Nat → Nat) (n : Node) : Node :=
  ⟨n.spec, n.parent?.map σ⟩

/-- Nodes under other numbers. Nodes beside each other in a declaration keep their order. -/
structure Moved (σ : Equiv.Perm Nat) (ns ns' : List Node) : Prop where
  node : ∀ d, ns'[σ d]? = ns[d]?.map (Node.move σ)
  /-- What is not there is not moved. -/
  beyond : ∀ d, ns.length ≤ d → σ d = d
  siblings : ∀ {d e c : Nat} {m n : Node}, ns[d]? = some m → ns[e]? = some n →
    m.parent? = some c → n.parent? = some c → d < e → σ d < σ e

namespace Moved

variable {σ τ : Equiv.Perm Nat} {ns ns' ns'' : List Node} {d : Nat} {n : Node}

theorem refl (ns : List Node) : Moved (Equiv.refl Nat) ns ns where
  node d := by
    have hself : Node.move (Equiv.refl Nat) = id := funext fun n => by simp [Node.move]
    rw [hself, Option.map_id]
    rfl
  beyond _ _ := rfl
  siblings _ _ _ _ hlt := hlt

variable (h : Moved σ ns ns')
include h

theorem getElem? (hn : ns[d]? = some n) : ns'[σ d]? = some (n.move σ) := by
  rw [h.node, hn]
  rfl

/-- Every node is a moved one. -/
theorem exists_node {d' : Nat} {n' : Node} (hn' : ns'[d']? = some n') :
    ∃ d n, d' = σ d ∧ ns[d]? = some n ∧ n' = n.move σ := by
  have hnode := h.node (σ.symm d')
  rw [σ.apply_symm_apply, hn'] at hnode
  obtain ⟨n, hn, heq⟩ := Option.map_eq_some_iff.1 hnode.symm
  exact ⟨σ.symm d', n, (σ.apply_symm_apply d').symm, hn, heq.symm⟩

theorem length_le : ns'.length ≤ ns.length := by
  have hnode := h.node ns.length
  rw [h.beyond _ (Nat.le_refl _), List.getElem?_eq_none (Nat.le_refl _)] at hnode
  exact List.getElem?_eq_none_iff.1 hnode

/-- Nodes that are moved twice. -/
theorem trans (h' : Moved τ ns' ns'') : Moved (σ.trans τ) ns ns'' where
  node d := by
    have hmove : Node.move (σ.trans τ) = Node.move τ ∘ Node.move σ := by
      funext n
      simp [Node.move, Function.comp_def]
    rw [Equiv.trans_apply, h'.node, h.node, Option.map_map, hmove]
  beyond d hd := by
    rw [Equiv.trans_apply, h.beyond d hd]
    exact h'.beyond d (Nat.le_trans h.length_le hd)
  siblings {d e c m n} hm hn hparent hparent' hlt := by
    have hmoved : (m.move σ).parent? = some (σ c) := by rw [Node.move, hparent]; rfl
    have hmoved' : (n.move σ).parent? = some (σ c) := by rw [Node.move, hparent']; rfl
    exact h'.siblings (h.getElem? hm) (h.getElem? hn) hmoved hmoved'
      (h.siblings hm hn hparent hparent' hlt)

/-- What stands in a declaration moves along with it, in the same order. -/
theorem childrenIn (d : Nat) : (childrenIn 0 ns' (σ d)).map Prod.fst =
    ((childrenIn 0 ns d).map Prod.fst).map σ := by
  have hmoved : (((Snapshot.childrenIn 0 ns d).map Prod.fst).map σ).Pairwise (· < ·) := by
    rw [List.pairwise_map]
    refine (pairwise_childrenIn 0 ns d).imp_of_mem fun {e f} he hf hlt => ?_
    obtain ⟨m, hm, hparent⟩ := mem_map_childrenIn_iff.1 he
    obtain ⟨n, hn, hparent'⟩ := mem_map_childrenIn_iff.1 hf
    exact h.siblings hm hn hparent hparent' hlt
  refine (pairwise_childrenIn 0 ns' (σ d)).eq_of_mem_iff hmoved fun e' => ?_
  rw [mem_map_childrenIn_iff, List.mem_map]
  constructor
  · intro he'
    obtain ⟨n', hn', hparent⟩ := he'
    obtain ⟨e, n, rfl, hn, rfl⟩ := h.exists_node hn'
    obtain ⟨c, hc, heq⟩ := Option.map_eq_some_iff.1 hparent
    obtain rfl := σ.injective heq
    exact ⟨e, mem_map_childrenIn_iff.2 ⟨n, hn, hc⟩, rfl⟩
  · intro he
    obtain ⟨e, hmem, rfl⟩ := he
    obtain ⟨n, hn, hparent⟩ := mem_map_childrenIn_iff.1 hmem
    exact ⟨n.move σ, h.getElem? hn, by rw [Node.move, hparent]; rfl⟩

end Moved

end Snapshot

/-! ## Exchanged trees -/

namespace DeclSpec

open Snapshot

theorem nodesOfAll_append (xs ys : List DeclSpec) (first : Nat) (parent? : Option Nat) :
    nodesOfAll first parent? (xs ++ ys) =
      nodesOfAll first parent? xs ++ nodesOfAll (first + sizeOfAll xs) parent? ys := by
  induction xs generalizing first with
  | nil => rfl
  | cons spec rest ih =>
      rw [List.cons_append, nodesOfAll, nodesOfAll, sizeOfAll, ih, List.append_assoc, Nat.add_assoc]

/-- The nodes of a forest whose numbers all move by the same distance. -/
theorem nodesOfAll_move {σ : Nat → Nat} {specs : List DeclSpec} {first first' : Nat}
    (parent? : Option Nat) (hσ : ∀ i < sizeOfAll specs, σ (first + i) = first' + i) :
    nodesOfAll first' (parent?.map σ) specs = (nodesOfAll first parent? specs).map (Node.move σ) := by
  induction specs using forest_induction generalizing first first' parent? with
  | nil => rfl
  | cons spec rest ihMembers ihRest =>
      have hsize := spec.size_eq
      rw [sizeOfAll] at hσ
      have hfirst : σ first = first' := hσ 0 (by omega)
      have hmembers : ∀ i < sizeOfAll spec.members, σ (first + 1 + i) = first' + 1 + i := by
        intro i hi
        rw [Nat.add_assoc, Nat.add_assoc]
        exact hσ (1 + i) (by omega)
      have hrest : ∀ i < sizeOfAll rest, σ (first + spec.size + i) = first' + spec.size + i := by
        intro i hi
        rw [Nat.add_assoc, Nat.add_assoc]
        exact hσ (spec.size + i) (by omega)
      rw [nodesOfAll_cons, nodesOfAll_cons, List.map_cons, List.map_append,
        ← ihMembers (some first) hmembers, ← ihRest parent? hrest, Option.map_some, hfirst]
      rfl

/-- The nodes of a forest in three parts. -/
theorem nodesOfAll_append_append (before xs ys after : List DeclSpec) :
    nodesOfAll 0 none (before ++ (xs ++ (ys ++ after))) =
      nodesOfAll 0 none before ++ (nodesOfAll (sizeOfAll before) none xs ++
        (nodesOfAll (sizeOfAll before + sizeOfAll xs) none ys ++
          nodesOfAll (sizeOfAll before + sizeOfAll xs + sizeOfAll ys) none after)) := by
  rw [nodesOfAll_append, nodesOfAll_append, nodesOfAll_append, Nat.zero_add]

section Exchange

variable (before xs ys after : List DeclSpec)

/-- When two parts of a forest change places, each part moves by a distance of its own. -/
theorem nodesOfAll_exchange (d : Nat) :
    (nodesOfAll 0 none (before ++ (ys ++ (xs ++ after))))[exchange (sizeOfAll before) (sizeOfAll xs)
        (sizeOfAll ys) d]? =
      (nodesOfAll 0 none (before ++ (xs ++ (ys ++ after))))[d]?.map
        (Node.move (exchange (sizeOfAll before) (sizeOfAll xs) (sizeOfAll ys))) := by
  rw [nodesOfAll_append_append, nodesOfAll_append_append]
  generalize hf : sizeOfAll before = f at *
  generalize hm : sizeOfAll xs = m at *
  generalize hn : sizeOfAll ys = n at *
  have hbefore : nodesOfAll 0 none before =
      (nodesOfAll 0 none before).map (Node.move (exchange f m n)) :=
    nodesOfAll_move none fun i hi => by unfold exchange; split_ifs <;> omega
  have hxs : nodesOfAll (f + n) none xs =
      (nodesOfAll f none xs).map (Node.move (exchange f m n)) :=
    nodesOfAll_move none fun i hi => by unfold exchange; split_ifs <;> omega
  have hys : nodesOfAll f none ys =
      (nodesOfAll (f + m) none ys).map (Node.move (exchange f m n)) :=
    nodesOfAll_move none fun i hi => by unfold exchange; split_ifs <;> omega
  have hafter : nodesOfAll (f + n + m) none after =
      (nodesOfAll (f + m + n) none after).map (Node.move (exchange f m n)) :=
    nodesOfAll_move none fun i hi => by unfold exchange; split_ifs <;> omega
  have hnodes : nodesOfAll 0 none before ++ (nodesOfAll f none ys ++
        (nodesOfAll (f + n) none xs ++ nodesOfAll (f + n + m) none after)) =
      (nodesOfAll 0 none before ++ (nodesOfAll (f + m) none ys ++
        (nodesOfAll f none xs ++ nodesOfAll (f + m + n) none after))).map
          (Node.move (exchange f m n)) := by
    rw [List.map_append, List.map_append, List.map_append, ← hbefore, ← hxs, ← hys, ← hafter]
  rw [hnodes, List.getElem?_map, getElem?_exchange] <;> rw [length_nodesOfAll] <;> assumption

variable {before xs ys after} {d c : Nat} {n : Node}

/-- A node of the second part stands in one of that part, and so after the first part. -/
theorem le_parent_of_second
    (hn : (nodesOfAll 0 none (before ++ (xs ++ (ys ++ after))))[d]? = some n)
    (hd : sizeOfAll before + sizeOfAll xs ≤ d)
    (hd' : d < sizeOfAll before + sizeOfAll xs + sizeOfAll ys) (hparent : n.parent? = some c) :
    sizeOfAll before + sizeOfAll xs ≤ c := by
  rw [nodesOfAll_append_append, List.getElem?_append_right (by simp; omega),
    List.getElem?_append_right (by simp; omega), List.getElem?_append_left (by simp; omega)] at hn
  rcases parent_of_mem_nodes (List.mem_of_getElem? hn) with hnone | ⟨c', hc', hle, -⟩
  · simp [hnone] at hparent
  · rw [hc', Option.some.injEq] at hparent
    omega

/-- When two parts of a forest change places, its nodes are moved. -/
theorem moved_exchange (before xs ys after : List DeclSpec) :
    Moved (exchangePerm (sizeOfAll before) (sizeOfAll xs) (sizeOfAll ys))
      (nodesOfAll 0 none (before ++ (xs ++ (ys ++ after))))
      (nodesOfAll 0 none (before ++ (ys ++ (xs ++ after)))) where
  node := nodesOfAll_exchange before xs ys after
  beyond d hd := by
    simp only [nodesOfAll_append_append, List.length_append, length_nodesOfAll] at hd
    change exchange _ _ _ d = d
    unfold exchange
    split_ifs <;> omega
  siblings {d e c m n} hm hn hparent hparent' hlt := by
    refine exchange_lt _ _ _ hlt fun hblocks => ?_
    obtain ⟨-, hd, he, he'⟩ := hblocks
    -- the declaration around both would stand before the one and not before the other
    have hfirst : c < d := parent_lt (s := ⟨[], before ++ (xs ++ (ys ++ after))⟩) hm hparent
    exact Nat.not_le.2 (Nat.lt_trans hfirst hd) (le_parent_of_second hn he he' hparent')

end Exchange

end DeclSpec

/-! ## Snapshots -/

namespace Snapshot

/-- A snapshot whose declarations at the top are in another order. -/
structure Rearranged (s s' : Snapshot) : Prop where
  types : s'.types = s.types
  declarations : s.declarations.Perm s'.declarations

/-- Forests whose trees are in another order have moved nodes, whatever trees stand before them. -/
theorem exists_moved_of_perm {specs specs' : List DeclSpec} (h : specs.Perm specs')
    (before : List DeclSpec) :
    ∃ σ, Moved σ (DeclSpec.nodesOfAll 0 none (before ++ specs))
      (DeclSpec.nodesOfAll 0 none (before ++ specs')) := by
  induction h generalizing before with
  | nil => exact ⟨_, .refl _⟩
  | @cons spec rest rest' _ ih =>
      obtain ⟨σ, hmoved⟩ := ih (before ++ [spec])
      rw [List.append_assoc, List.append_assoc] at hmoved
      exact ⟨σ, hmoved⟩
  | swap x y rest => exact ⟨_, DeclSpec.moved_exchange before [y] [x] rest⟩
  | trans _ _ ih ih' =>
      obtain ⟨σ, hmoved⟩ := ih before
      obtain ⟨τ, hmoved'⟩ := ih' before
      exact ⟨_, hmoved.trans hmoved'⟩

namespace Rearranged

variable {s s' : Snapshot} (h : s.Rearranged s')

theorem symm (h : s.Rearranged s') : s'.Rearranged s :=
  ⟨h.types.symm, h.declarations.symm⟩

include h

theorem exists_moved : ∃ σ, Moved σ s.nodes s'.nodes :=
  exists_moved_of_perm h.declarations []

/-! ### Names -/

theorem namedTypes_perm : s.namedTypes.Perm s'.namedTypes := by
  have hflat (specs : List DeclSpec) :
      DeclSpec.namedTypesOfAll specs = specs.flatMap DeclSpec.namedTypes := by
    induction specs with
    | nil => rfl
    | cons spec rest ih => rw [DeclSpec.namedTypesOfAll, ih, List.flatMap_cons]
  rw [namedTypes, namedTypes, h.types, hflat, hflat]
  exact (h.declarations.flatMap_right _).append_left _

/-- The same types are declared, with the same supertypes. -/
theorem typesRenamed : s.TypesRenamed id s' where
  declaredNames := by
    rw [List.map_id, ← map_fst_namedTypes, ← map_fst_namedTypes]
    exact h.namedTypes_perm.map _
  writes := by
    rw [Prod.map_id, List.map_id]
    exact h.namedTypes_perm.flatMap_right _

theorem mem_nodes_of_mem {n' : Node} (hn' : n' ∈ s'.nodes) : ∃ n ∈ s.nodes, n'.spec = n.spec := by
  obtain ⟨σ, hmoved⟩ := h.exists_moved
  obtain ⟨d', hd'⟩ := List.mem_iff_getElem?.1 hn'
  obtain ⟨d, n, rfl, hn, rfl⟩ := hmoved.exists_node hd'
  exact ⟨n, List.mem_of_getElem? hn, rfl⟩

/-! ### Loading -/

/-- What another order describes is acceptable if the snapshot is. -/
theorem acceptable (hs : s.Acceptable) : s'.Acceptable where
  distinct := by
    have hnames := h.typesRenamed.declaredNames
    rw [List.map_id] at hnames
    exact hnames.nodup hs.distinct
  closed name hname := by
    refine (h.typesRenamed.known_iff typeRenaming_id name).2 (hs.closed name ?_)
    rw [referencedNames, h.types, List.mem_append] at hname
    rw [referencedNames, List.mem_append]
    refine hname.imp_right fun hnode => ?_
    obtain ⟨n', hn', hname⟩ := List.mem_flatMap.1 hnode
    obtain ⟨n, hn, hspec⟩ := h.mem_nodes_of_mem hn'
    exact List.mem_flatMap.2 ⟨n, hn, hspec ▸ hname⟩
  shaped n' hn' := by
    obtain ⟨n, hn, hspec⟩ := h.mem_nodes_of_mem hn'
    exact hspec ▸ hs.shaped n hn
  placed n' hn' hkind := by
    obtain ⟨σ, hmoved⟩ := h.exists_moved
    obtain ⟨d', hd'⟩ := List.mem_iff_getElem?.1 hn'
    obtain ⟨d, n, rfl, hn, rfl⟩ := hmoved.exists_node hd'
    obtain ⟨c, m, hparent, hm, htype⟩ := hs.placed n (List.mem_of_getElem? hn) hkind
    exact ⟨σ c, m.move σ, by rw [Node.move, hparent]; rfl, hmoved.getElem? hm, htype⟩

/-- Snapshots in different orders can be loaded together or not at all. -/
theorem exists_load_iff : (∃ p', s'.load = .ok p') ↔ ∃ p, s.load = .ok p := by
  rw [loads_iff_acceptable, loads_iff_acceptable]
  exact ⟨h.symm.acceptable, h.acceptable⟩

end Rearranged

end Snapshot

end ModContracts
