import ModContracts.Program.Build
import ModContracts.Proofs.Program.Naming
import ModContracts.Proofs.Program.Queries

/-!
# Growth of the tables

Entering a declaration and attaching annotations only add to the tables of a program. This module
says what they add to each table, so that no other module has to open them.

* `Program.enter` — a declaration with the type it introduces; the edits that add declarations are
  instances of it;
* `Program.affix`, `Program.affixAll` — one complete attachment, and several in order;
* `Program.place` — the location of a declaration, if it has one;
* `Program.getElem?_affixAll_enter` — the table of declarations after both;
* `Program.introducing?_enter`, `Program.carriersOf_affixAll` — the indexes after both.
-/

namespace ModContracts

/-! ## The last entry of a table -/

section Last

variable {α : Type} (xs : List α) (x : α)

theorem getElem?_concat_eq_ite (i : Nat) :
    (xs ++ [x])[i]? = if i = xs.length then some x else xs[i]? := by
  by_cases h : i = xs.length
  · simp [h]
  · rw [if_neg h]
    rcases Nat.lt_or_gt_of_ne h with hlt | hgt
    · exact List.getElem?_append_left hlt
    · rw [List.getElem?_eq_none (by simp; omega), List.getElem?_eq_none (by omega)]

theorem modify_concat_length (f : α → α) : (xs ++ [x]).modify xs.length f = xs ++ [f x] := by
  induction xs with
  | nil => rfl
  | cons y rest ih => simp [ih]

end Last

namespace Program

variable {p : Program}

/-! ## Declarations -/

/-- Adds a declaration. One that introduces a type is the declaration of that type from now on. -/
def enter (p : Program) (decl : Declaration) : Program :=
  let q := (p.declare decl).1
  match decl.introduced? with
  | some type => { q with introducedBy := q.introducedBy.put type p.declarations.length }
  | none => q

theorem declareTypeOf_eq_enter {kind : Kind} (hkind : kind.isType = true) {type : TypeId}
    {name : String} (hname : p.typeName type = .ok name) (modifiers : ModifierSet)
    (enclosing? : Option DeclId) :
    p.declareTypeOf kind type modifiers enclosing? =
      (p.enter { kind, name := lastSegment name, type? := some type, modifiers, enclosing? },
        p.declarations.length) := by
  unfold typeName at hname
  cases htype : p.types[type]? with
  | none => simp [htype] at hname
  | some entry =>
      obtain rfl : entry.name = name := by simpa [htype] using hname
      simp [declareTypeOf, htype, enter, Declaration.introduced?, hkind, declare]

section Enter

variable (p) (decl : Declaration)

@[simp] theorem types_enter : (p.enter decl).types = p.types := by
  unfold enter
  cases decl.introduced? <;> rfl

@[simp] theorem typeIds_enter : (p.enter decl).typeIds = p.typeIds := by
  unfold enter
  cases decl.introduced? <;> rfl

@[simp] theorem attachments_enter : (p.enter decl).attachments = p.attachments := by
  unfold enter
  cases decl.introduced? <;> rfl

@[simp] theorem carriersOf_enter (type : TypeId) :
    (p.enter decl).carriersOf type = p.carriersOf type := by
  unfold enter
  cases decl.introduced? <;> rfl

theorem declarations_enter :
    (p.enter decl).declarations = (p.declare decl).1.declarations := by
  unfold enter
  cases decl.introduced? <;> rfl

@[simp] theorem length_declarations_enter :
    (p.enter decl).declarations.length = p.declarations.length + 1 := by
  rw [declarations_enter]
  unfold declare
  cases decl.enclosing? <;> simp

/-- The declaration of a type is the last one that introduces it. -/
theorem introducing?_enter (type : TypeId) :
    (p.enter decl).introducing? type =
      if decl.introduced? = some type then some p.declarations.length
      else p.introducing? type := by
  unfold enter introducing?
  cases h : decl.introduced? with
  | none => simp [declare]
  | some introduced => simp [declare, Keyed.find?_put]

end Enter

/-- A new declaration comes last, and the one around it gains a member. A declaration may be declared
around itself. -/
theorem getElem?_declare (p : Program) (decl : Declaration) (d : DeclId) :
    (p.declare decl).1.declarations[d]? =
      (p.declarations ++ [decl])[d]?.map fun around =>
        if decl.enclosing? = some d then
          { around with members := around.members ++ [p.declarations.length] }
        else around := by
  unfold declare
  cases h : decl.enclosing? with
  | none => simp
  | some owner =>
      simp only [List.getElem?_modify, Option.some.injEq]
      split <;> simp [*]

/-- A new declaration comes last, and the one around it, if that is there already, gains a member. -/
theorem getElem?_enter {decl : Declaration}
    (h : ∀ owner, decl.enclosing? = some owner → owner < p.declarations.length) (d : DeclId) :
    (p.enter decl).declarations[d]? =
      if d = p.declarations.length then some decl
      else p.declarations[d]?.map fun around =>
        if decl.enclosing? = some d then
          { around with members := around.members ++ [p.declarations.length] }
        else around := by
  rw [declarations_enter, getElem?_declare, getElem?_concat_eq_ite]
  by_cases hd : d = p.declarations.length
  · have hne : decl.enclosing? ≠ some d := fun henc =>
      Nat.lt_irrefl _ (hd ▸ h d henc)
    rw [if_pos hd, if_pos hd, Option.map_some, if_neg hne]
  · rw [if_neg hd, if_neg hd]

/-! ## Locations -/

/-- Sets where a declaration was written, if that is known. -/
def place (p : Program) (d : DeclId) : Option Location → Program
  | some location => p.setLocation d location
  | none => p

section Place

variable (p) (d : DeclId) (location? : Option Location)

@[simp] theorem types_place : (p.place d location?).types = p.types := by
  cases location? <;> rfl

@[simp] theorem typeIds_place : (p.place d location?).typeIds = p.typeIds := by
  cases location? <;> rfl

@[simp] theorem length_declarations_place :
    (p.place d location?).declarations.length = p.declarations.length := by
  cases location? <;> simp [place, setLocation]

/-- A declaration that is placed after it was entered might as well have been entered there. -/
theorem place_enter {decl : Declaration} (hdecl : decl.location? = none)
    (h : ∀ owner, decl.enclosing? = some owner → owner < p.declarations.length) :
    (p.enter decl).place p.declarations.length location? = p.enter { decl with location? } := by
  cases location? with
  | none =>
      have hself : { decl with location? := none } = decl := by
        cases decl
        simp_all
      rw [hself]
      rfl
  | some location =>
      have hdeclared : (p.declare decl).1.setLocation p.declarations.length location =
          (p.declare { decl with location? := some location }).1 := by
        unfold declare setLocation
        cases henc : decl.enclosing? with
        | none => simp [modify_concat_length, henc]
        | some owner =>
            have hne : owner ≠ p.declarations.length := Nat.ne_of_lt (h owner henc)
            simp [List.modify_modify_ne _ _ _ hne, modify_concat_length, henc]
      unfold enter
      rw [← hdeclared]
      simp only [Declaration.introduced?]
      split <;> rfl

end Place

/-! ## Attachments -/

/-- Adds a complete attachment to the declaration it belongs to. -/
def affix (p : Program) (attached : Attachment) : Program :=
  Program.listCarrier
    { p with
      attachments := p.attachments ++ [attached]
      declarations := p.declarations.modify attached.owner fun decl =>
        { decl with attachments := decl.attachments ++ [p.attachments.length] } }
    attached.type attached.owner

/-- Adds complete attachments, in order. -/
def affixAll (p : Program) (attached : List Attachment) : Program :=
  attached.foldl affix p

theorem attach_eq_affix (p : Program) (d : DeclId) (type : TypeId) (values : Keyed String Value) :
    p.attach d type values = (p.affix { owner := d, type, values }, p.attachments.length) :=
  rfl

section Affix

variable (p) (attached : Attachment)

@[simp] theorem types_affix : (p.affix attached).types = p.types := by
  unfold affix listCarrier
  dsimp only
  split <;> rfl

@[simp] theorem typeIds_affix : (p.affix attached).typeIds = p.typeIds := by
  unfold affix listCarrier
  dsimp only
  split <;> rfl

theorem sameNames_affix : p.SameNames (p.affix attached) :=
  .of_types_eq (types_affix p attached) (typeIds_affix p attached)

@[simp] theorem introducing?_affix (type : TypeId) :
    (p.affix attached).introducing? type = p.introducing? type := by
  unfold affix listCarrier
  dsimp only
  split <;> rfl

@[simp] theorem attachments_affix :
    (p.affix attached).attachments = p.attachments ++ [attached] := by
  unfold affix listCarrier
  dsimp only
  split <;> rfl

theorem declarations_affix :
    (p.affix attached).declarations = p.declarations.modify attached.owner fun decl =>
      { decl with attachments := decl.attachments ++ [p.attachments.length] } := by
  unfold affix listCarrier
  dsimp only
  split <;> rfl

/-- A declaration is listed with the carriers of a type unless it is the one listed last. -/
theorem carriersOf_affix (type : TypeId) :
    (p.affix attached).carriersOf type =
      if attached.type = type ∧ (p.carriersOf type).getLast? ≠ some attached.owner then
        p.carriersOf type ++ [attached.owner]
      else p.carriersOf type := by
  unfold affix listCarrier
  dsimp only
  by_cases htype : attached.type = type
  · subst htype
    -- only the last carrier is looked at: attachments of one declaration come one after another
    by_cases hlast : (p.carriersOf attached.type).getLast? = some attached.owner
    · have hlast' := hlast
      simp_all [carriersOf]
    · simp_all [carriersOf, Keyed.find?_put]
  · split <;> simp [carriersOf, Keyed.find?_put, htype]

/-- An attachment that is located after it was made is a complete attachment. -/
theorem setAttachmentLocation_attach (p : Program) (d : DeclId) (type : TypeId)
    (values : Keyed String Value) (location? : Option Location)
    (valueLocations : Keyed String Location) :
    (p.attach d type values).1.setAttachmentLocation (p.attach d type values).2 location?
      valueLocations =
      p.affix { owner := d, type, values, location?,
                valueLocations := Keyed.ofList valueLocations } := by
  simp only [attach_eq_affix, setAttachmentLocation]
  unfold affix listCarrier
  dsimp only [carriersOf]
  split <;> simp [modify_concat_length, Keyed.ofList]

end Affix

section AffixAll

@[simp] theorem types_affixAll (attached : List Attachment) (p : Program) :
    (p.affixAll attached).types = p.types := by
  induction attached generalizing p with
  | nil => rfl
  | cons a rest ih => exact (ih (p.affix a)).trans (types_affix p a)

@[simp] theorem typeIds_affixAll (attached : List Attachment) (p : Program) :
    (p.affixAll attached).typeIds = p.typeIds := by
  induction attached generalizing p with
  | nil => rfl
  | cons a rest ih => exact (ih (p.affix a)).trans (typeIds_affix p a)

@[simp] theorem introducing?_affixAll (attached : List Attachment) (p : Program) (type : TypeId) :
    (p.affixAll attached).introducing? type = p.introducing? type := by
  induction attached generalizing p with
  | nil => rfl
  | cons a rest ih => exact (ih (p.affix a)).trans (introducing?_affix p a type)

@[simp] theorem attachments_affixAll (attached : List Attachment) (p : Program) :
    (p.affixAll attached).attachments = p.attachments ++ attached := by
  induction attached generalizing p with
  | nil => simp [affixAll]
  | cons a rest ih =>
      refine (ih (p.affix a)).trans ?_
      rw [attachments_affix, List.append_assoc, List.singleton_append]

/-- Attachments that belong to one declaration are listed with it under consecutive ids. -/
theorem declarations_affixAll {d : DeclId} {attached : List Attachment}
    (h : ∀ a ∈ attached, a.owner = d) (p : Program) :
    (p.affixAll attached).declarations = p.declarations.modify d fun decl =>
      { decl with attachments :=
          decl.attachments ++ List.range' p.attachments.length attached.length } := by
  induction attached generalizing p with
  | nil =>
      have hid : (fun decl : Declaration =>
          { decl with attachments := decl.attachments ++ List.range' p.attachments.length 0 }) = id :=
        funext fun decl => by simp
      simp only [affixAll, List.foldl_nil, List.length_nil, hid, List.modify_id]
  | cons a rest ih =>
      refine (ih (fun b hb => h b (by simp [hb])) (p.affix a)).trans ?_
      rw [declarations_affix, h a (by simp), List.modify_modify_eq, attachments_affix]
      congr 1
      funext decl
      simp [List.range'_succ]

/-- A declaration that is entered with attachments lists them under the ids that come next. -/
theorem getElem?_affixAll_enter {decl : Declaration}
    (h : ∀ owner, decl.enclosing? = some owner → owner < p.declarations.length)
    {attached : List Attachment} (howner : ∀ a ∈ attached, a.owner = p.declarations.length)
    (d : DeclId) :
    ((p.enter decl).affixAll attached).declarations[d]? =
      if d = p.declarations.length then
        some { decl with attachments :=
          decl.attachments ++ List.range' p.attachments.length attached.length }
      else p.declarations[d]?.map fun around =>
        if decl.enclosing? = some d then
          { around with members := around.members ++ [p.declarations.length] }
        else around := by
  rw [declarations_affixAll howner, List.getElem?_modify, getElem?_enter h, attachments_enter]
  by_cases hd : d = p.declarations.length
  · simp [hd]
  · simp only [if_neg hd, if_neg (Ne.symm hd), Option.map_eq_map, Option.map_id']

/-- Attachments that belong to one declaration list it with the carriers of their types, once. -/
theorem carriersOf_affixAll {d : DeclId} {attached : List Attachment}
    (h : ∀ a ∈ attached, a.owner = d) (p : Program) (type : TypeId) :
    (p.affixAll attached).carriersOf type =
      if (∃ a ∈ attached, a.type = type) ∧ (p.carriersOf type).getLast? ≠ some d then
        p.carriersOf type ++ [d]
      else p.carriersOf type := by
  induction attached generalizing p with
  | nil => simp [affixAll]
  | cons a rest ih =>
      have hrest := ih (fun b hb => h b (by simp [hb])) (p.affix a)
      refine hrest.trans ?_
      rw [carriersOf_affix, h a (by simp)]
      by_cases hlast : (p.carriersOf type).getLast? = some d
      · simp [hlast]
      · by_cases ha : a.type = type
        · simp [hlast, ha]
        · simp [hlast, ha]

end AffixAll

end Program

end ModContracts
