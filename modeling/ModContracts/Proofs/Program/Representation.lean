import ModContracts.Proofs.Program.Carriers
import ModContracts.Proofs.Program.Enclosure

/-!
# The tables and indexes of a program agree

A program keeps the same facts in several places: the declaration around another one and the list of
members, the owner of an attachment and the list on the declaration, the name of a type and the index
of names, the type of a declaration and the index of introduced types, the attachments and the index
of carriers. Edits change all of them together.

* `Program.Coherent` — what the queries say about each other;
* `Program.Built.coherent` — they do in every program that can be built;
* `Program.names_prefix_applyAll` — ids of types stay;
* `Program.coherent_of_applyAll` — programs that edits lead to, whichever ids the edits name.
-/

namespace ModContracts

namespace Program

variable {p q : Program} {d : DeclId} {t : TypeId}

/-! ## Supertypes -/

/-- No supertype is added twice. -/
theorem Built.nodup_supertypes (h : p.Built) {entry : TypeEntry} (hentry : p.types[t]? = some entry) :
    entry.supertypes.Nodup := by
  induction h generalizing t entry with
  | initial =>
      have hbare : ∀ builtin ∈ builtinTypes, builtin.supertypes = [] := by decide
      rw [hbare entry (List.mem_of_getElem? hentry)]
      exact List.nodup_nil
  | @register p _ name ih =>
      unfold Program.register at hentry
      split at hentry
      · exact ih hentry
      · rw [getElem?_concat_eq_ite] at hentry
        split at hentry
        case isTrue =>
            obtain rfl := Option.some.inj hentry
            exact List.nodup_nil
        case isFalse => exact ih hentry
  | @addSupertype p _ type super ih =>
      obtain ⟨before, hbefore, rfl | ⟨hnew, rfl⟩⟩ := addSupertype_cases hentry
      · exact ih hbefore
      · -- a supertype that is there already is not added again
        simpa using (ih hbefore).concat hnew
  | declare _ _ _ _ _ ih => exact ih hentry
  | introduce _ _ _ ih => exact ih hentry
  | setLocation _ _ _ ih => exact ih hentry
  | affix _ attached _ ih => exact ih (types_affix _ attached ▸ hentry)
  | setAttachmentLocation _ _ _ _ ih => exact ih hentry

theorem Built.nodup_supertypesOf (h : p.Built) (t : TypeId) : (p.supertypesOf t).Nodup := by
  unfold supertypesOf
  split
  case h_1 entry hentry => exact h.nodup_supertypes hentry
  case h_2 => exact List.nodup_nil

/-! ## Introduced types -/

/-- The type that each declaration introduces or is of. -/
def declaredTypes (p : Program) : List (Option TypeId) :=
  p.declarations.map Declaration.type?

theorem typeOf_eq_ok_iff : p.typeOf d = .ok t ↔ p.declaredTypes[d]? = some (some t) := by
  unfold declaredTypes typeOf declaration
  rw [List.getElem?_map]
  cases hdecl : p.declarations[d]? with
  | none => simp [bind, Except.bind]
  | some decl => cases htype : decl.type? <;> simp [bind, Except.bind, htype]

theorem declaredTypes_declare (p : Program) (decl : Declaration) :
    (p.declare decl).1.declaredTypes = p.declaredTypes ++ [decl.type?] := by
  refine map_declare ?_ p decl
  exact fun _ _ => rfl

/-- The declaration of a type is one whose type it is. -/
theorem Built.typeOf_introducing (h : p.Built) (hd : p.introducing? t = some d) :
    p.typeOf d = .ok t := by
  rw [typeOf_eq_ok_iff]
  induction h generalizing t d with
  | initial => simp [introducing?, Program.initial, Keyed.find?] at hd
  | @register p _ name ih =>
      rw [declaredTypes, declarations_register]
      refine ih ?_
      unfold Program.register at hd
      split at hd <;> exact hd
  | addSupertype _ _ _ ih => exact ih hd
  | @declare p _ decl _ _ _ ih =>
      rw [declaredTypes_declare]
      have hbefore : p.declaredTypes[d]? = some (some t) := ih hd
      have hlt : d < p.declaredTypes.length := (List.getElem?_eq_some_iff.1 hbefore).1
      rw [List.getElem?_append_left hlt]
      exact hbefore
  | @introduce p _ e decl type hdecl htype ih =>
      rw [introducing?, Keyed.find?_put] at hd
      split at hd
      case isTrue heq =>
          obtain rfl := Option.some.inj hd
          change p.declaredTypes[e]? = some (some t)
          rw [declaredTypes, List.getElem?_map, hdecl, Option.map_some, htype, heq]
      case isFalse => exact ih hd
  | setLocation _ e location ih =>
      rw [declaredTypes, Program.setLocation, map_modify_eq_map]
      · exact ih hd
      · exact fun _ => rfl
  | affix _ attached _ ih =>
      rw [introducing?_affix] at hd
      rw [declaredTypes, declarations_affix, map_modify_eq_map]
      · exact ih hd
      · exact fun _ => rfl
  | setAttachmentLocation _ _ _ _ ih => exact ih hd

/-! ## Attachments -/

/-- The attachments of a declaration come in the order in which they were made. -/
theorem pairwise_ownedBy (p : Program) (d : DeclId) : (p.ownedBy d).Pairwise (· < ·) := by
  have hids : (p.sites.zipIdx.map Prod.snd).Pairwise (· < ·) := by
    rw [List.zipIdx_map_snd]
    exact List.pairwise_lt_range'
  rw [List.pairwise_map] at hids
  refine List.Pairwise.filterMap _ ?_ hids
  intro x y hlt a ha b hb
  simp only [Option.ite_none_right_eq_some, Option.some.injEq] at ha hb
  rw [← ha.2, ← hb.2]
  exact hlt

/-! ## Agreement -/

/-- What the queries of a program say about each other. -/
structure Coherent (p : Program) : Prop where
  /-- The members of a declaration are the declarations inside it, by increasing id. -/
  members : ∀ d < p.declarations.length, ∃ ids, p.membersOf d = .ok ids ∧ ids.Pairwise (· < ·) ∧
    ∀ e, e ∈ ids ↔ p.enclosingOf e = .ok (some d)
  /-- The attachments on a declaration are those it owns, by increasing id. -/
  attachments : ∀ d < p.declarations.length, ∃ ids, p.attachmentsOf d = .ok ids ∧
    ids.Pairwise (· < ·) ∧
    ∀ a, a ∈ ids ↔ ∃ attached, p.attachment a = .ok attached ∧ attached.owner = d
  owners : ∀ a attached, p.attachment a = .ok attached →
    ∃ decl, p.declaration attached.owner = .ok decl
  /-- Names and ids of types are in bijection. -/
  names : ∀ name t, p.typeId? name = some t ↔ p.typeName t = .ok name
  supertypes : ∀ t, (p.supertypesOf t).Nodup
  introducing : ∀ t d, p.introducing? t = some d → p.typeOf d = .ok t
  /-- The carriers of an annotation type are the declarations with an attachment of it. -/
  carriers : ∀ type d, d ∈ p.carriersOf type ↔ p.hasAttachment d type = .ok true

theorem Built.indexed (h : p.Built) : p.Indexed := by
  induction h with
  | initial => exact indexed_initial
  | register _ name ih => exact ih.register name .declared
  | @addSupertype p _ type super ih => exact (sameNames_addSupertype p type super).indexed ih
  | declare _ _ _ _ _ ih => exact ⟨ih.typeIds_eq, ih.nodup_names⟩
  | introduce _ _ _ ih => exact ⟨ih.typeIds_eq, ih.nodup_names⟩
  | setLocation _ _ _ ih => exact ⟨ih.typeIds_eq, ih.nodup_names⟩
  | affix _ attached _ ih =>
      exact (sameNames_affix _ attached).indexed ih
  | setAttachmentLocation _ _ _ _ ih => exact ⟨ih.typeIds_eq, ih.nodup_names⟩

/-- In a program that can be built, the tables and indexes agree. -/
theorem Built.coherent (h : p.Built) : p.Coherent where
  members d hd := by
    have hdecl := List.getElem?_eq_getElem hd
    refine ⟨_, membersOf_eq hdecl, ?_, ?_⟩
    · rw [h.nested.listed hdecl]
      exact p.pairwise_inside d
    · intro e
      rw [h.nested.listed hdecl, mem_inside_iff, enclosingOf_eq_ok_iff]
  attachments d hd := by
    have hdecl := List.getElem?_eq_getElem hd
    refine ⟨_, attachmentsOf_eq hdecl, ?_, ?_⟩
    · rw [h.attached.listed hdecl]
      exact p.pairwise_ownedBy d
    · intro a
      simp only [h.attached.listed hdecl, mem_ownedBy_iff, attachment_eq_ok_iff]
  owners a attached hattached := by
    have hmem := List.mem_of_getElem? (attachment_eq_ok_iff.1 hattached)
    obtain ⟨decl, hdecl⟩ := h.attached.exists_owner hmem
    exact ⟨decl, declaration_eq hdecl⟩
  names _ _ := h.indexed.typeId?_eq_some_iff
  supertypes := h.nodup_supertypesOf
  introducing _ _ hd := h.typeOf_introducing hd
  carriers _ _ := h.attached.mem_carriersOf_iff

/-! ## Names stay -/

/-- A type that is known stays known by its name where names are only added. -/
theorem typeName_of_prefix {name : String} (h : p.names <+: q.names) (ht : p.typeName t = .ok name) :
    q.typeName t = .ok name := by
  obtain ⟨added, hadded⟩ := h
  rw [typeName_eq_ok_iff] at ht ⊢
  rw [← hadded, List.getElem?_append_left (List.getElem?_eq_some_iff.1 ht).1, ht]

theorem SameNames.names_isPrefix (h : p.SameNames q) : p.names <+: q.names :=
  h.names_eq ▸ List.prefix_refl _

theorem names_prefix_addSupertypes (p : Program) (type : TypeId) (supers : List TypeId) :
    p.names <+: (p.addSupertypes type supers).names := by
  induction supers generalizing p with
  | nil => exact List.prefix_refl _
  | cons super rest ih =>
      have hfirst := (sameNames_addSupertype p type super).names_eq
      exact hfirst ▸ ih (p.addSupertype type super)

theorem names_prefix_declareType (p : Program) (name : String) (supers : List TypeId) :
    p.names <+: (p.declareType name supers).1.names :=
  (names_prefix_register p name .declared).trans (names_prefix_addSupertypes _ _ supers)

/-- An edit leaves the types that are known in their places. -/
theorem names_prefix_perform (p : Program) (e : Edit) : p.names <+: (p.perform e).1.names := by
  cases e with
  | declareType name supers => exact names_prefix_declareType p name supers
  | addSupertype type super => exact (sameNames_addSupertype p type super).names_isPrefix
  | declareClass owner? name supers modifiers => exact names_prefix_declareType p name supers
  | attach d type values =>
      change p.names <+: (p.affix { owner := d, type, values }).names
      exact (p.sameNames_affix _).names_isPrefix
  | _ => exact List.prefix_refl p.names

theorem names_prefix_applyAll {edits : List Edit} (h : p.applyAll edits = some q) :
    p.names <+: q.names := by
  induction edits generalizing p with
  | nil =>
      obtain rfl : p = q := by simpa [applyAll] using h
      exact List.prefix_refl _
  | cons e rest ih =>
      obtain ⟨-, hrest⟩ := applyAll_cons_eq_some_iff.1 h
      exact (names_prefix_perform p e).trans (ih hrest)

/-- A known name is found under its id, and declaring it again hands out that id. -/
theorem declareType_of_typeName {name : String} (h : p.Indexed) (ht : p.typeName t = .ok name)
    (supers : List TypeId) : (p.declareType name supers).2 = t := by
  have hid : p.typeId? name = some t := h.typeId?_eq_some_iff.2 ht
  change (p.register name .declared).2 = t
  rw [register, hid]

/-- The id that declaring a name hands out is that of the name. -/
theorem typeName_declareType (h : p.Indexed) (name : String) (supers : List TypeId) :
    (p.declareType name supers).1.typeName (p.declareType name supers).2 = .ok name := by
  refine typeName_of_prefix (names_prefix_addSupertypes _ _ supers) ?_
  change (p.register name .declared).1.typeName (p.register name .declared).2 = .ok name
  rcases register_cases p name .declared with ⟨t, ht, heq⟩ | ⟨-, hid, hnames, -⟩
  · rw [heq]
    exact h.typeName_of_typeId? ht
  · rw [typeName_eq_ok_iff, hid, hnames]
    simp [names]

/-! ## Edits -/

/-- In every program that edits lead to, the tables and indexes agree, and a name that is declared
again, however much later, is handed out under the same id. -/
theorem coherent_of_applyAll {edits : List Edit} (h : Program.initial.applyAll edits = some p) :
    p.Coherent ∧
    ∀ name supers supers' more q r handle, p.apply (.declareType name supers) = some (q, handle) →
      q.applyAll more = some r →
      ∃ s, r.apply (.declareType name supers') = some (s, handle) := by
  have hbuilt : p.Built := built_of_applyAll h
  refine ⟨hbuilt.coherent, ?_⟩
  intro name supers supers' more q r handle hdeclared hmore
  obtain ⟨hq, hhandle⟩ : (p.declareType name supers).1 = q ∧
      Handle.type (p.declareType name supers).2 = handle :=
    Prod.mk.inj (Option.some.inj hdeclared)
  subst hq hhandle
  have hname := typeName_of_prefix (names_prefix_applyAll hmore)
    (typeName_declareType hbuilt.indexed name supers)
  have hindexed : r.Indexed := ((hbuilt.declareType name supers).applyAll hmore).indexed
  refine ⟨(r.declareType name supers').1, ?_⟩
  rw [← declareType_of_typeName hindexed hname supers']
  rfl

/-- A type that is declared around the declarations of others, a class inside itself, and attachments
that take turns. -/
def tanglingExample : List Edit :=
  [.declareType "a.Base" [12], .declareClass none "a.First" [11, 11] (.ofList [.isPublic]),
    .declareMethod 0 "run" (.ofList []) [] TypeId.void,
    .declareTypeOf .classType 12 (.ofList []) (some 2),
    .declareField 0 "LOOP" (.ofList []) TypeId.object,
    .attach 0 11 [], .attach 1 11 [], .attach 0 11 []]

theorem exists_coherent_tanglingExample :
    ∃ p, Program.initial.applyAll tanglingExample = some p ∧ p.Coherent ∧
      p.membersOf 0 = .ok [1, 3] ∧ p.membersOf 2 = .ok [2] ∧
      p.attachmentsOf 0 = .ok [0, 2] ∧ p.introducing? 12 = some 2 ∧
      ∃ s, p.apply (.declareType "a.Base" []) = some (s, .type 11) := by
  have hrun : (Program.initial.applyAll tanglingExample).map (fun p =>
      ((p.membersOf 0).toOption, (p.membersOf 2).toOption, (p.attachmentsOf 0).toOption,
        p.introducing? 12)) = some (some [1, 3], some [2], some [0, 2], some 2) := by
    decide +kernel
  obtain ⟨p, hp, heq⟩ := Option.map_eq_some_iff.1 hrun
  simp only [Prod.mk.injEq, toOption_eq_some_iff] at heq
  obtain ⟨hmembers, hown, hattachments, hintroducing⟩ := heq
  obtain ⟨hcoherent, -⟩ := coherent_of_applyAll hp
  have hstart : Program.initial.applyAll [] = some Program.initial := rfl
  have hdeclared : Program.initial.apply (.declareType "a.Base" [12]) =
      some ((Program.initial.declareType "a.Base" [12]).1, .type 11) := rfl
  have hagain := (coherent_of_applyAll hstart).2 "a.Base" [12] [] _ _ p _ hdeclared
    (applyAll_cons_eq_some_iff.1 hp).2
  exact ⟨p, hp, hcoherent, hmembers, hown, hattachments, hintroducing, hagain⟩

end Program

end ModContracts
