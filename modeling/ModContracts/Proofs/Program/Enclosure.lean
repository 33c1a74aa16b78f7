import ModContracts.Proofs.Program.Built
import ModContracts.Proofs.Results
import Mathlib.Logic.Relation
import Mathlib.Algebra.BigOperators.Group.List.Defs

/-!
# Declarations inside declarations

Every declaration is entered by one edit, and is inside the declaration that the edit names. That one
was entered before, or it is the new declaration itself: the id that is handed out next is the only one
that an edit can name ahead of time.

* `Program.enclosures`, `Program.inside` — what is around each declaration, and what is inside one;
* `Program.Nested` — members agree with it, and nothing is inside a later declaration;
  `Program.Built.nested` — as in every program that can be built;
* `Program.enclosures_applyAll` — one declaration for each edit that enters one;
* `Program.EntersItself`, `Program.Forest` — an edit that names the new declaration, and declarations
  that none of them is inside itself;
* `Program.forest_of_applyAll` — edits build a forest exactly when none of them does that.
-/

namespace ModContracts

theorem map_modify_eq_map {α β : Type} {f : α → α} {g : α → β} (h : ∀ x, g (f x) = g x)
    (xs : List α) (i : Nat) : (xs.modify i f).map g = xs.map g := by
  refine List.ext_getElem? fun j => ?_
  rw [List.getElem?_map, List.getElem?_map, List.getElem?_modify]
  cases xs[j]? with
  | none => rfl
  | some x =>
      simp only [Option.map_eq_map, Option.map_some]
      split
      · rw [h]
      · rfl

namespace Program

variable {p q : Program} {d e : DeclId}

/-! ## Around and inside -/

/-- The declaration around each declaration. -/
def enclosures (p : Program) : List (Option DeclId) :=
  p.declarations.map Declaration.enclosing?

/-- The declarations directly inside a declaration, by increasing id. -/
def inside (p : Program) (d : DeclId) : List DeclId :=
  p.enclosures.findIdxs (· = some d)

theorem enclosingOf_eq_ok_iff {enclosing? : Option DeclId} :
    p.enclosingOf d = .ok enclosing? ↔ p.enclosures[d]? = some enclosing? := by
  unfold enclosingOf declaration enclosures
  rw [List.getElem?_map]
  cases p.declarations[d]? <;> simp [Except.map]

theorem membersOf_eq_ok_iff {members : List DeclId} :
    p.membersOf d = .ok members ↔
      ∃ decl, p.declarations[d]? = some decl ∧ decl.members = members := by
  unfold membersOf declaration
  cases p.declarations[d]? <;> simp [Except.map]

theorem mem_inside_iff : e ∈ p.inside d ↔ p.enclosures[e]? = some (some d) := by
  rw [inside, List.mem_findIdxs_iff_exists_getElem_pos]
  simp [List.getElem?_eq_some_iff]

theorem pairwise_inside (p : Program) (d : DeclId) : (p.inside d).Pairwise (· < ·) :=
  List.pairwise_findIdxs

theorem length_enclosures (p : Program) : p.enclosures.length = p.declarations.length :=
  List.length_map _

/-- A new declaration comes last, and nothing but members changes in the others. -/
theorem map_declare {β : Type} {g : Declaration → β}
    (hg : ∀ (around : Declaration) (members : List DeclId), g { around with members } = g around)
    (p : Program) (decl : Declaration) :
    (p.declare decl).1.declarations.map g = p.declarations.map g ++ [g decl] := by
  unfold declare
  cases decl.enclosing? with
  | none => exact List.map_append
  | some owner =>
      refine (map_modify_eq_map ?_ _ _).trans List.map_append
      exact fun around => hg around _

theorem enclosures_declare (p : Program) (decl : Declaration) :
    (p.declare decl).1.enclosures = p.enclosures ++ [decl.enclosing?] := by
  refine map_declare ?_ p decl
  exact fun _ _ => rfl

theorem inside_declare (p : Program) (decl : Declaration) (d : DeclId) :
    (p.declare decl).1.inside d =
      p.inside d ++ if decl.enclosing? = some d then [p.declarations.length] else [] := by
  rw [inside, enclosures_declare, List.findIdxs_append, ← inside, List.findIdxs_singleton,
    length_enclosures, Nat.zero_add]
  by_cases h : decl.enclosing? = some d <;> simp [h]

/-! ## Agreement -/

/-- The members of each declaration are what is inside it, and nothing is inside a declaration that
was entered later. -/
structure Nested (p : Program) : Prop where
  listed : ∀ {d : DeclId} {decl : Declaration}, p.declarations[d]? = some decl →
    decl.members = p.inside d
  le : ∀ {d owner : DeclId}, p.enclosures[d]? = some (some owner) → owner ≤ d

theorem nested_initial : Program.initial.Nested where
  listed := by simp [initial]
  le := by simp [enclosures, initial]

/-- What is around each declaration, and its members. -/
def layout (p : Program) : List (Option DeclId × List DeclId) :=
  p.declarations.map fun decl => (decl.enclosing?, decl.members)

theorem enclosures_eq_map_layout (p : Program) : p.enclosures = p.layout.map Prod.fst := by
  rw [layout, List.map_map]
  rfl

namespace Nested

/-- An edit that leaves the layout alone keeps the agreement. -/
theorem congr (h : p.Nested) (hlayout : q.layout = p.layout) : q.Nested where
  listed {d decl} hdecl := by
    have hat : p.layout[d]? = some (decl.enclosing?, decl.members) := by
      rw [← hlayout, layout, List.getElem?_map, hdecl, Option.map_some]
    rw [layout, List.getElem?_map, Option.map_eq_some_iff] at hat
    obtain ⟨before, hbefore, heq⟩ := hat
    have hinside : q.inside d = p.inside d := by
      rw [inside, enclosures_eq_map_layout, hlayout, ← enclosures_eq_map_layout, inside]
    rw [hinside, ← h.listed hbefore]
    exact (Prod.mk.inj heq).2.symm
  le hd := by
    rw [enclosures_eq_map_layout, hlayout, ← enclosures_eq_map_layout] at hd
    exact h.le hd

/-- Nothing is inside a declaration that is not there. -/
theorem inside_eq_nil (h : p.Nested) (hd : p.declarations.length ≤ d) : p.inside d = [] := by
  refine List.eq_nil_iff_forall_not_mem.2 fun e he => ?_
  have hed := mem_inside_iff.1 he
  have hlt := (List.getElem?_eq_some_iff.1 hed).1
  rw [length_enclosures] at hlt
  exact absurd hd (Nat.not_le.2 (Nat.lt_of_le_of_lt (h.le hed) hlt))

theorem declare (h : p.Nested) {decl : Declaration} (hmembers : decl.members = [])
    (howner : ∀ owner, decl.enclosing? = some owner → owner ≤ p.declarations.length) :
    (p.declare decl).1.Nested where
  listed {d around} haround := by
    rw [getElem?_declare, Option.map_eq_some_iff] at haround
    obtain ⟨before, hbefore, rfl⟩ := haround
    -- the new declaration comes without members, and nothing was inside it
    have hlisted : before.members = p.inside d := by
      rw [getElem?_concat_eq_ite] at hbefore
      split at hbefore
      case isTrue hd =>
          obtain rfl := Option.some.inj hbefore
          rw [hmembers, h.inside_eq_nil (Nat.le_of_eq hd.symm)]
      case isFalse => exact h.listed hbefore
    rw [inside_declare, ← hlisted]
    split <;> simp
  le {d owner} hd := by
    rw [enclosures_declare, getElem?_concat_eq_ite, length_enclosures] at hd
    split at hd
    case isTrue hlast =>
        rw [hlast]
        exact howner owner (Option.some.inj hd)
    case isFalse => exact h.le hd

end Nested

/-- In a program that can be built, members agree with what is around each declaration. -/
theorem Built.nested (h : p.Built) : p.Nested := by
  induction h with
  | initial => exact nested_initial
  | @register p _ name ih =>
      refine ih.congr ?_
      rw [layout, declarations_register, layout]
  | addSupertype _ _ _ ih => exact ih.congr rfl
  | declare _ decl hmembers _ howner ih => exact ih.declare hmembers howner
  | introduce _ _ _ ih => exact ih.congr rfl
  | setLocation _ _ _ ih =>
      refine ih.congr (map_modify_eq_map ?_ _ _)
      exact fun _ => rfl
  | affix _ attached _ ih =>
      refine ih.congr ?_
      rw [layout, declarations_affix]
      refine map_modify_eq_map ?_ _ _
      exact fun _ => rfl
  | setAttachmentLocation _ _ _ _ ih => exact ih.congr rfl

/-! ## One declaration for each edit that enters one -/

end Program

/-- What an edit that enters a declaration names as the declaration around it, if anything. -/
def Edit.enters? : Edit → Option (Option DeclId)
  | .declareTypeOf _ _ _ enclosing? => some enclosing?
  | .declareClass owner? .. => some owner?
  | .declareMethod owner .. | .declareConstructor owner .. | .declareField owner .. =>
    some (some owner)
  | _ => none

/-- No edit names a declaration beyond the one that would come next. -/
theorem Edit.le_of_allowed {p : Program} {e : Edit} {owner : DeclId}
    (henters : e.enters? = some (some owner)) (hallowed : e.allowed p = true) :
    owner ≤ p.declarations.length := by
  cases e <;> simp_all [Edit.enters?, Edit.allowed]

/-- What is kept of a list at some position comes from one element of it. -/
theorem getElem?_filterMap_eq_some_iff {α β : Type} {f : α → Option β} {xs : List α} {i : Nat}
    {y : β} : (xs.filterMap f)[i]? = some y ↔
      ∃ front x back, xs = front ++ x :: back ∧ (front.filterMap f).length = i ∧ f x = some y := by
  induction xs generalizing i with
  | nil => simp
  | cons x rest ih =>
      constructor
      · intro h
        rw [List.filterMap_cons] at h
        cases hx : f x with
        | none =>
            rw [hx] at h
            obtain ⟨front, z, back, rfl, rfl, hz⟩ := ih.1 h
            exact ⟨x :: front, z, back, rfl, by rw [List.filterMap_cons_none hx], hz⟩
        | some kept =>
            rw [hx] at h
            cases i with
            | zero => exact ⟨[], x, rest, rfl, rfl, hx.trans (by simpa using h)⟩
            | succ j =>
                obtain ⟨front, z, back, rfl, rfl, hz⟩ := ih.1 (by simpa using h)
                exact ⟨x :: front, z, back, rfl, by simp [List.filterMap_cons_some hx], hz⟩
      · intro h
        obtain ⟨front, z, back, heq, rfl, hz⟩ := h
        rw [heq, List.filterMap_append, List.filterMap_cons_some hz]
        simp

namespace Program

variable {p q : Program} {d owner : DeclId}

theorem enclosures_declareTypeOf (kind : Kind) (type : TypeId) (modifiers : ModifierSet)
    (enclosing? : Option DeclId) :
    (p.declareTypeOf kind type modifiers enclosing?).1.enclosures =
      p.enclosures ++ [enclosing?] :=
  enclosures_declare p _

/-- Entering a declaration adds what is around it; no other edit touches that. -/
theorem enclosures_perform (p : Program) (e : Edit) :
    (p.perform e).1.enclosures = p.enclosures ++ e.enters?.toList := by
  cases e with
  | declareType name supers =>
      change (p.declareType name supers).1.enclosures = p.enclosures ++ []
      rw [enclosures, declarations_declareType, List.append_nil, enclosures]
  | addSupertype type super => exact (List.append_nil _).symm
  | declareTypeOf kind type modifiers enclosing? => exact enclosures_declareTypeOf ..
  | declareClass owner? name supers modifiers =>
      have hsame : (p.declareType name supers).1.enclosures = p.enclosures := by
        rw [enclosures, declarations_declareType, enclosures]
      change ((p.declareType name supers).1.declareTypeOf ..).1.enclosures = _
      rw [enclosures_declareTypeOf, hsame]
      rfl
  | declareMethod owner name modifiers parameters returns =>
      change (p.declareMethod owner name modifiers parameters returns).1.enclosures = _
      exact enclosures_declare p _
  | declareConstructor owner modifiers parameters =>
      change (p.declareConstructor owner modifiers parameters).1.enclosures = _
      exact enclosures_declare p _
  | declareField owner name modifiers type =>
      change (p.declareField owner name modifiers type).1.enclosures = _
      exact enclosures_declare p _
  | attach d type values =>
      change (p.affix { owner := d, type, values }).enclosures = p.enclosures ++ []
      rw [enclosures, declarations_affix, List.append_nil]
      refine map_modify_eq_map ?_ _ _
      exact fun _ => rfl
  | setLocation d location =>
      refine (map_modify_eq_map ?_ _ _).trans (List.append_nil _).symm
      exact fun _ => rfl
  | setAttachmentLocation a location? valueLocations => exact (List.append_nil _).symm

theorem enclosures_applyAll {edits : List Edit} (h : p.applyAll edits = some q) :
    q.enclosures = p.enclosures ++ edits.filterMap Edit.enters? := by
  induction edits generalizing p with
  | nil =>
      obtain rfl : p = q := by simpa [applyAll] using h
      simp
  | cons e rest ih =>
      obtain ⟨-, hrest⟩ := applyAll_cons_eq_some_iff.1 h
      rw [ih hrest, enclosures_perform, List.append_assoc]
      cases he : e.enters? <;> simp [he]

/-- The declaration around the one that is handed out under an id is what the edit that entered it
named. -/
theorem enclosingOf_applyAll_iff {edits : List Edit} (h : Program.initial.applyAll edits = some p)
    {enclosing? : Option DeclId} :
    p.enclosingOf d = .ok enclosing? ↔
      ∃ before e after q, edits = before ++ e :: after ∧
        Program.initial.applyAll before = some q ∧ e.allowed q = true ∧
        q.declarations.length = d ∧ e.enters? = some enclosing? := by
  rw [enclosingOf_eq_ok_iff, enclosures_applyAll h]
  change (edits.filterMap Edit.enters?)[d]? = some enclosing? ↔ _
  rw [getElem?_filterMap_eq_some_iff]
  -- as many declarations are there before an edit as the edits before it entered
  have hlength {before : List Edit} {q : Program} (hq : Program.initial.applyAll before = some q) :
      q.declarations.length = (before.filterMap Edit.enters?).length := by
    rw [← length_enclosures, enclosures_applyAll hq]
    rfl
  constructor
  · intro hsplit
    obtain ⟨before, e, after, rfl, rfl, he⟩ := hsplit
    obtain ⟨q, hq, hrest⟩ := applyAll_append_eq_some_iff.1 h
    exact ⟨before, e, after, q, rfl, hq, (applyAll_cons_eq_some_iff.1 hrest).1, hlength hq, he⟩
  · intro hentered
    obtain ⟨before, e, after, q, rfl, hq, -, rfl, he⟩ := hentered
    exact ⟨before, e, after, rfl, (hlength hq).symm, he⟩

/-! ## Forests -/

/-- A declaration that is directly inside another one. -/
def InsideOf (p : Program) (d owner : DeclId) : Prop :=
  p.enclosingOf d = .ok (some owner)

/-- A run of edits enters a declaration under the id that the edit itself names around it. -/
def EntersItself (edits : List Edit) (d : DeclId) : Prop :=
  ∃ before e after q, edits = before ++ e :: after ∧ Program.initial.applyAll before = some q ∧
    q.declarations.length = d ∧ e.enters? = some (some d)

/-- Declarations stand inside earlier ones only. -/
structure Forest (p : Program) : Prop where
  lt : ∀ {d owner : DeclId}, p.InsideOf d owner → owner < d
  /-- The way outwards ends at the top. -/
  top : ∀ d < p.declarations.length, ∃ top,
    Relation.ReflTransGen p.InsideOf d top ∧ p.enclosingOf top = .ok none
  /-- No declaration is its own member. -/
  members : ∀ {d : DeclId} {members : List DeclId}, p.membersOf d = .ok members → d ∉ members

/-- A declaration that is there has an answer to what is around it. -/
theorem exists_enclosingOf (hd : d < p.declarations.length) :
    ∃ enclosing?, p.enclosingOf d = .ok enclosing? :=
  ⟨_, enclosingOf_eq (List.getElem?_eq_getElem hd)⟩

namespace Nested

theorem le_of_insideOf (h : p.Nested) (hd : p.InsideOf d owner) : owner ≤ d :=
  h.le (enclosingOf_eq_ok_iff.1 hd)

/-- The way outwards ends at the top, or at a declaration that is inside itself. -/
theorem exists_outermost (h : p.Nested) {d : DeclId} (hd : d < p.declarations.length) :
    ∃ top, Relation.ReflTransGen p.InsideOf d top ∧
      (p.enclosingOf top = .ok none ∨ p.InsideOf top top) := by
  induction d using Nat.strongRecOn with
  | ind d ih =>
      obtain ⟨enclosing?, henclosing⟩ := exists_enclosingOf hd
      cases enclosing? with
      | none => exact ⟨d, .refl, .inl henclosing⟩
      | some owner =>
          have hle : owner ≤ d := h.le_of_insideOf henclosing
          rcases Nat.lt_or_eq_of_le hle with hlt | rfl
          · obtain ⟨top, hchain, htop⟩ := ih owner hlt (Nat.lt_trans hlt hd)
            exact ⟨top, hchain.head henclosing, htop⟩
          · exact ⟨owner, .refl, .inr henclosing⟩

theorem forest_iff (h : p.Nested) : p.Forest ↔ ∀ d, ¬ p.InsideOf d d := by
  constructor
  · intro hforest d hself
    exact Nat.lt_irrefl d (hforest.lt hself)
  · intro hself
    refine ⟨?_, ?_, ?_⟩
    · intro d owner hd
      refine Nat.lt_of_le_of_ne (h.le_of_insideOf hd) ?_
      rintro rfl
      exact hself _ hd
    · intro d hd
      obtain ⟨top, hchain, htop⟩ := h.exists_outermost hd
      exact ⟨top, hchain, htop.resolve_right (hself top)⟩
    · intro d members hmembers hmem
      obtain ⟨decl, hdecl, rfl⟩ := membersOf_eq_ok_iff.1 hmembers
      rw [h.listed hdecl, mem_inside_iff] at hmem
      exact hself d (enclosingOf_eq_ok_iff.2 hmem)

end Nested

/-- A declaration is inside itself exactly if an edit entered it so. -/
theorem insideOf_self_iff {edits : List Edit} (h : Program.initial.applyAll edits = some p) :
    p.InsideOf d d ↔ EntersItself edits d := by
  rw [InsideOf, enclosingOf_applyAll_iff h]
  constructor
  · intro hself
    obtain ⟨before, e, after, q, hsplit, hq, -, hlength, he⟩ := hself
    exact ⟨before, e, after, q, hsplit, hq, hlength, he⟩
  · intro hself
    obtain ⟨before, e, after, q, rfl, hq, hlength, he⟩ := hself
    obtain ⟨r, hr, hrest⟩ := applyAll_append_eq_some_iff.1 h
    obtain rfl : q = r := Option.some.inj (hq.symm.trans hr)
    exact ⟨before, e, after, q, rfl, hq, (applyAll_cons_eq_some_iff.1 hrest).1, hlength, he⟩

/-- Edits enter each declaration inside one that was there before or inside itself, and refuse any
other. They build a forest exactly when they enter none inside itself. -/
theorem forest_of_applyAll {edits : List Edit} (h : Program.initial.applyAll edits = some p) :
    (∀ d owner, p.enclosingOf d = .ok (some owner) →
      owner < d ∨ owner = d ∧ EntersItself edits d) ∧
    (p.Forest ↔ ∀ d, ¬ EntersItself edits d) ∧
    (∀ e owner, e.enters? = some (some owner) → p.declarations.length < owner →
      p.apply e = none) := by
  have hnested : p.Nested := (built_of_applyAll h).nested
  refine ⟨?_, ?_, ?_⟩
  · intro d owner henclosing
    rcases Nat.lt_or_eq_of_le (hnested.le_of_insideOf henclosing) with hlt | rfl
    · exact .inl hlt
    · exact .inr ⟨rfl, (insideOf_self_iff h).1 henclosing⟩
  · simp only [hnested.forest_iff, insideOf_self_iff h]
  · intro e owner henters hlt
    have hrefused : e.allowed p ≠ true := fun hallowed =>
      Nat.not_le.2 hlt (Edit.le_of_allowed henters hallowed)
    rw [apply, if_neg hrefused]

/-- A class with a method, and a field that names itself as what is around it. -/
def selfOwnedExample : List Edit :=
  [.declareClass none "a.First" [] (.ofList [.isPublic]),
    .declareMethod 0 "run" (.ofList []) [] TypeId.void,
    .declareField 2 "LOOP" (.ofList []) TypeId.object]

theorem exists_forest_selfOwnedExample :
    ∃ p, Program.initial.applyAll selfOwnedExample = some p ∧
      ¬ p.Forest ∧ EntersItself selfOwnedExample 2 ∧
      p.apply (.declareMethod 4 "run" (.ofList []) [] TypeId.void) = none := by
  have hrun : (Program.initial.applyAll selfOwnedExample).map
      (fun p => ((p.enclosingOf 2).toOption, p.declarations.length)) = some (some (some 2), 3) := by
    decide +kernel
  obtain ⟨p, hp, heq⟩ := Option.map_eq_some_iff.1 hrun
  obtain ⟨hself, hlength⟩ := Prod.mk.inj heq
  rw [toOption_eq_some_iff] at hself
  obtain ⟨howner, hforest, hrefused⟩ := forest_of_applyAll hp
  have hentered : EntersItself selfOwnedExample 2 :=
    ((howner 2 2 hself).resolve_left (Nat.lt_irrefl 2)).2
  refine ⟨p, hp, fun h => hforest.1 h 2 hentered, hentered, ?_⟩
  exact hrefused _ 4 rfl (by rw [hlength]; decide)

/-- A method that is declared in an empty program, inside the declaration that comes next, is inside
itself and its own member. -/
theorem exists_own_member :
    ∃ p, Program.initial.applyAll
        [.declareMethod 0 "run" (.ofList []) [] TypeId.void] = some p ∧
      p.enclosingOf 0 = .ok (some 0) ∧ p.membersOf 0 = .ok [0] := by
  have hrun : (Program.initial.applyAll
      [.declareMethod 0 "run" (.ofList []) [] TypeId.void]).map
      (fun p => ((p.enclosingOf 0).toOption, (p.membersOf 0).toOption)) =
        some (some (some 0), some [0]) := by
    decide +kernel
  obtain ⟨p, hp, heq⟩ := Option.map_eq_some_iff.1 hrun
  obtain ⟨henclosing, hmembers⟩ := Prod.mk.inj heq
  exact ⟨p, hp, toOption_eq_some_iff.1 henclosing, toOption_eq_some_iff.1 hmembers⟩

end Program

end ModContracts
