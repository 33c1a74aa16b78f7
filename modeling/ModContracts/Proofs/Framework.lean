import ModContracts.Proofs.Program.WellFormed
import ModContracts.Proofs.Check
import ModContracts.Proofs.Results

/-!
# Resolved frameworks

The framework of a program under a profile is there when the designated types are, and it then holds
what the names of the profile stand for.

* `Context.Resolved` — a framework holds the ids of the names under its profile;
* `Context.ofProgram_eq_ok_iff`, `Context.exists_ofProgram_iff` — when a program has a context;
* `Context.carries_eq` — whether a declaration carries a tag;
* `Context.tagAttachment_yields` — the attachment that puts a declaration under a tag.
-/

namespace ModContracts

namespace Framework

variable {p : Program} {profile : Profile}

theorem require_eq_ok_iff {t : Designated} {id : TypeId} :
    require p profile t = .ok id ↔ p.typeId? (t.typeName profile) = some id := by
  unfold require
  cases p.typeId? (t.typeName profile) <;> simp

/-- The framework holds the ids of the names under the profile. -/
theorem resolve_eq_ok_iff {f : Framework} :
    resolve p profile = .ok f ↔ f.profile = profile ∧
      (∀ tag, f.tagType? tag = p.typeId? (tag.annotationName profile)) ∧
      ∀ t : Designated, p.typeId? (t.typeName profile) = some (f.typeOf t) := by
  unfold resolve
  simp only [bind_eq_ok_iff, require_eq_ok_iff, pure_eq_ok_iff]
  constructor
  · intro h
    obtain ⟨fmlEvent, h₁, event, h₂, modMetadata, h₃, side, h₄, string, h₅, void, h₆, boolean, h₇,
      rfl⟩ := h
    refine ⟨rfl, fun tag => rfl, fun t => ?_⟩
    cases t <;> assumption
  · intro h
    obtain ⟨rfl, htags, htypes⟩ := h
    refine ⟨_, htypes .fmlEvent, _, htypes .event, _, htypes .modMetadata, _, htypes .side, _,
      htypes .string, _, htypes .void, _, htypes .boolean, ?_⟩
    obtain ⟨profile, tagType?, fmlEvent, event, modMetadata, side, string, void, boolean⟩ := f
    dsimp only at htags
    obtain rfl : tagType? = fun tag => p.typeId? (tag.annotationName profile) := funext htags
    rfl

end Framework

namespace Context

/-- A framework holds what the names under its profile stand for in the program. -/
structure Resolved (cx : Context) : Prop where
  tagType : ∀ tag, cx.framework.tagType? tag =
    cx.program.typeId? (tag.annotationName cx.framework.profile)
  designated : ∀ t : Designated,
    cx.program.typeId? (t.typeName cx.framework.profile) = some (cx.framework.typeOf t)

theorem ofProgram_eq_ok_iff {p : Program} {profile : Profile} {cx : Context} :
    ofProgram p profile = .ok cx ↔
      cx.program = p ∧ cx.framework.profile = profile ∧ cx.Resolved := by
  unfold ofProgram
  rw [map_eq_ok_iff]
  obtain ⟨program, framework⟩ := cx
  constructor
  · intro h
    obtain ⟨f, hf, heq⟩ := h
    obtain ⟨rfl, rfl⟩ : p = program ∧ f = framework := by simpa using heq
    obtain ⟨rfl, htags, htypes⟩ := Framework.resolve_eq_ok_iff.1 hf
    exact ⟨rfl, rfl, htags, htypes⟩
  · intro h
    obtain ⟨rfl, rfl, htags, htypes⟩ := h
    exact ⟨framework, Framework.resolve_eq_ok_iff.2 ⟨rfl, htags, htypes⟩, rfl⟩

/-- A program has a context under a profile when it knows the designated types. -/
theorem exists_ofProgram_iff {p : Program} {profile : Profile} :
    (∃ cx, ofProgram p profile = .ok cx) ↔
      ∀ t : Designated, ∃ id, p.typeId? (t.typeName profile) = some id := by
  constructor
  · rintro ⟨cx, h⟩ t
    obtain ⟨rfl, rfl, hresolved⟩ := ofProgram_eq_ok_iff.1 h
    exact ⟨_, hresolved.designated t⟩
  · intro h
    choose ids hids using h
    refine ⟨⟨p, ⟨profile, fun tag => p.typeId? (tag.annotationName profile), ids .fmlEvent,
      ids .event, ids .modMetadata, ids .side, ids .string, ids .void, ids .boolean⟩⟩, ?_⟩
    refine ofProgram_eq_ok_iff.2 ⟨rfl, rfl, fun tag => rfl, fun t => ?_⟩
    cases t <;> exact hids _

variable {cx : Context} {d : DeclId} {decl : Declaration}

/-! ## Tags -/

/-- Whether a declaration carries a tag. -/
def wears (cx : Context) (tag : Tag) (d : DeclId) : Bool :=
  (cx.framework.tagType? tag).any fun type => cx.program.wears type d

theorem carries_eq (hp : cx.program.WellFormed) (h : cx.program.declarations[d]? = some decl)
    (tag : Tag) : cx.carries d tag = .ok (cx.wears tag d) := by
  unfold carries wears
  cases cx.framework.tagType? tag with
  | none => rfl
  | some type => exact hp.hasAttachment_eq h type

/-- The first attachment that puts a declaration under a tag. -/
def firstAttachment? (cx : Context) (tag : Tag) (decl : Declaration) : Option AttachmentId :=
  (cx.framework.tagType? tag).bind fun type => decl.attachments.find? (cx.program.isOfType type)

theorem tagAttachment_yields (hp : cx.program.WellFormed)
    (h : cx.program.declarations[d]? = some decl) {tag : Tag} {a : AttachmentId}
    (hfirst : cx.firstAttachment? tag decl = some a) :
    (cx.tagAttachment d tag).Yields (.ok a) [] := by
  obtain ⟨type, htype, hfind⟩ := Option.bind_eq_some_iff.1 hfirst
  have hfound : cx.program.findAttachment d type = .ok (some a) := by
    rw [hp.findAttachment_eq h, hfind]
  unfold tagAttachment
  rw [htype]
  exact Check.Yields.ask_bind hfound (Check.yields_pure a)

/-- A declaration that carries a tag has a first attachment that puts it there. -/
theorem exists_firstAttachment (hp : cx.program.WellFormed)
    (h : cx.program.declarations[d]? = some decl) {tag : Tag} (hwears : cx.wears tag d = true) :
    ∃ a attached, cx.firstAttachment? tag decl = some a ∧
      cx.program.attachments[a]? = some attached := by
  obtain ⟨type, htype, hwears⟩ := Option.any_eq_true _ _ |>.1 hwears
  rw [Program.wears, h, Option.any_some] at hwears
  obtain ⟨a, ha⟩ := Option.isSome_iff_exists.1 (List.isSome_find?.trans hwears)
  obtain ⟨attached, hattached, -⟩ := hp.attachments h a (List.mem_of_find?_eq_some ha)
  exact ⟨a, attached, Option.bind_eq_some_iff.2 ⟨type, htype, ha⟩, hattached⟩

end Context

end ModContracts
