import ModContracts.Proofs.Program.Representation

/-!
# Names and kinds of types

The built-in types come first in every program that can be built and stay what they are. Every other
name stands for a declared type, so the name of a type decides its kind.

* `Program.Built.typeName_builtin` — the built-in types keep their ids;
* `Program.kindOfName`, `Program.Built.typeKind?_eq` — the kind that a name decides.
-/

namespace ModContracts

namespace Program

variable {p : Program} {t : TypeId} {name : String}

/-- The built-in types keep their places in every program that can be built. -/
theorem Built.names_initial_isPrefix (h : p.Built) : Program.initial.names <+: p.names := by
  induction h with
  | initial => exact List.prefix_refl _
  | @register p _ name ih => exact ih.trans (names_prefix_register p name .declared)
  | @addSupertype p _ type super ih =>
      exact ih.trans (sameNames_addSupertype p type super).names_isPrefix
  | declare _ _ _ _ _ ih => exact ih
  | introduce _ _ _ ih => exact ih
  | setLocation _ _ _ ih => exact ih
  | @affix p _ attached _ ih => exact ih.trans (p.sameNames_affix attached).names_isPrefix
  | setAttachmentLocation _ _ _ _ ih => exact ih

theorem Built.typeName_builtin (h : p.Built) {entry : TypeEntry}
    (ht : builtinTypes[t]? = some entry) : p.typeName t = .ok entry.name := by
  have hinitial : Program.initial.typeName t = .ok entry.name := by
    rw [typeName_eq_ok_iff, names, List.getElem?_map]
    exact congrArg (Option.map TypeEntry.name) ht
  exact typeName_of_prefix h.names_initial_isPrefix hinitial

/-! ## Kinds -/

/-- The kind of the type that a name stands for: what is not built in is declared. -/
def kindOfName (name : String) : TypeKind :=
  ((builtinTypes.find? (·.name = name)).map TypeEntry.kind).getD .declared

theorem kindOfName_of_not_mem (h : name ∉ Program.initial.names) : kindOfName name = .declared := by
  have hnone : builtinTypes.find? (·.name = name) = none := by
    rw [List.find?_eq_none]
    intro entry hentry heq
    exact h (of_decide_eq_true heq ▸ List.mem_map_of_mem hentry)
  rw [kindOfName, hnone]
  rfl

theorem Built.kind_eq (h : p.Built) : ∀ entry ∈ p.types, entry.kind = kindOfName entry.name := by
  induction h with
  | initial => decide
  | @register p hp name ih =>
      unfold Program.register
      split
      case h_1 => exact ih
      case h_2 hnone =>
          have hnew : name ∉ Program.initial.names := fun hmem =>
            hp.indexed.typeId?_eq_none_iff.1 hnone (hp.names_initial_isPrefix.subset hmem)
          refine List.forall_mem_append.2 ⟨ih, ?_⟩
          rw [List.forall_mem_singleton]
          exact (kindOfName_of_not_mem hnew).symm
  | @addSupertype p _ type super ih =>
      intro entry hentry
      obtain ⟨i, hi⟩ := List.mem_iff_getElem?.1 hentry
      obtain ⟨before, hbefore, rfl | ⟨-, rfl⟩⟩ := addSupertype_cases hi
      · exact ih entry (List.mem_of_getElem? hbefore)
      · exact ih before (List.mem_of_getElem? hbefore)
  | declare _ _ _ _ _ ih => exact ih
  | introduce _ _ _ ih => exact ih
  | setLocation _ _ _ ih => exact ih
  | affix _ attached _ ih =>
      rw [types_affix]
      exact ih
  | setAttachmentLocation _ _ _ _ ih => exact ih

/-- The name of a type decides its kind. -/
theorem Built.typeKind?_eq (h : p.Built) (ht : p.typeName t = .ok name) :
    p.typeKind? t = some (kindOfName name) := by
  rw [typeName_eq_ok_iff, names, List.getElem?_map, Option.map_eq_some_iff] at ht
  obtain ⟨entry, hentry, rfl⟩ := ht
  rw [typeKind?, hentry, Option.map_some, h.kind_eq entry (List.mem_of_getElem? hentry)]

end Program

end ModContracts
