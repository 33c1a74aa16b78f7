import ModContracts.Proofs.Program.Order
import ModContracts.Proofs.Round.Faults
import ModContracts.Proofs.Round.Pairs
import Mathlib.Data.List.TakeWhile

/-!
# Names that stay apart

The names the rules know are built from a package root that may be any text. A name ends with a word
that no root can change, and the words differ, so two such names are the same only if they are meant to
be: the annotations of two tags under two roots are one name only for one tag and one root.

* `lastSegment_append` — what stands before a name with a dot in it does not change its last segment;
* `FrameworkName` — the annotations of the tags and the designated types, `FrameworkName.word` — how
  such a name ends, `FrameworkName.eq_of_text_eq` — the same text under two profiles is the same name;
* `Tag.NamesApart` — the annotations of tags are apart from all other names that the rules know;
* `Program.PutsUnder` — an attachment puts a declaration under a tag;
* `Context.TagsApart` — the tags in a program are apart, `Program.tags_apart` — in every program that
  edits or a snapshot lead to, under every profile.
-/

namespace ModContracts

/-! ## The end of a name -/

/-- What stands before a name with a dot in it does not change its last segment. -/
theorem lastSegment_append (front : String) {name : String} (hdot : '.' ∈ name.toList) :
    lastSegment (front ++ name) = lastSegment name := by
  have hshort : (name.toList.reverse.takeWhile (· ≠ '.')).length ≠ name.toList.reverse.length := by
    intro hlength
    have hall := (List.takeWhile_prefix (· ≠ '.')).eq_of_length hlength
    rw [List.takeWhile_eq_self_iff] at hall
    simpa using hall '.' (List.mem_reverse.2 hdot)
  rw [lastSegment, String.toList_append, List.reverse_append, List.takeWhile_append,
    if_neg hshort, lastSegment]

/-! ## Names of the framework -/

/-- A name that the rules know: the annotation of a tag, or a designated type. -/
inductive FrameworkName where
  | tag (t : Tag)
  | designated (t : Designated)
  deriving DecidableEq, Repr

namespace FrameworkName

/-- Every name the rules know. -/
def all : List FrameworkName :=
  Tag.all.map .tag ++ Designated.all.map .designated

theorem mem_all (n : FrameworkName) : n ∈ all := by
  cases n with
  | tag t => exact List.mem_append_left _ (List.mem_map_of_mem t.mem_all)
  | designated t => cases t <;> decide

/-- The qualified name under a profile. -/
def text (profile : Profile) : FrameworkName → String
  | .tag t => t.annotationName profile
  | .designated t => t.typeName profile

/-- The last segment of the name. -/
def word : FrameworkName → String
  | .tag t => t.name
  | .designated .fmlEvent => "FMLEvent"
  | .designated .event => "Event"
  | .designated .modMetadata => "ModMetadata"
  | .designated .side => "Side"
  | .designated .string => "String"
  | .designated .void => "void"
  | .designated .boolean => "boolean"

theorem word_injective : Function.Injective word := by
  have hnodup : (all.map word).Nodup := by decide
  exact fun n m h => List.inj_on_of_nodup_map hnodup (mem_all n) (mem_all m) h

/-- The root of a profile changes nothing in the last segment. -/
theorem lastSegment_text (profile : Profile) (n : FrameworkName) :
    lastSegment (n.text profile) = n.word := by
  have hcommon (path : String) :
      lastSegment (profile.common path) = lastSegment (".fml.common." ++ path) := by
    rw [Profile.common, String.append_assoc]
    exact lastSegment_append _ (by simp)
  have hfml (path : String) : lastSegment (profile.fml path) = lastSegment (".fml." ++ path) := by
    rw [Profile.fml, String.append_assoc]
    exact lastSegment_append _ (by simp)
  cases n with
  | tag t => exact (hcommon t.path).trans (by cases t <;> decide)
  | designated t =>
      cases t with
      | fmlEvent | event | modMetadata => exact (hcommon _).trans (by decide)
      | side => exact (hfml _).trans (by decide)
      | string => exact (by decide : lastSegment stringName = "String")
      | void => exact (by decide : lastSegment "void" = "void")
      | boolean => exact (by decide : lastSegment "boolean" = "boolean")

/-- Two names with one text, each under a profile of its own, are the same name. -/
theorem eq_of_text_eq {n m : FrameworkName} {profile other : Profile}
    (h : n.text profile = m.text other) : n = m := by
  apply word_injective
  rw [← lastSegment_text profile, h, lastSegment_text]

end FrameworkName

/-! ## Annotations of tags -/

namespace Tag

/-- The annotation of a tag has a name of its own under each root. -/
theorem eq_of_annotationName_eq {t u : Tag} {profile other : Profile}
    (h : t.annotationName profile = u.annotationName other) : t = u ∧ profile = other := by
  obtain ⟨rfl⟩ : FrameworkName.tag t = .tag u := FrameworkName.eq_of_text_eq h
  refine ⟨rfl, ?_⟩
  obtain ⟨root⟩ := profile
  obtain ⟨root'⟩ := other
  simpa [annotationName, Profile.common] using h

/-- The annotation of a tag is named unlike any name that ends otherwise. -/
theorem annotationName_ne {t : Tag} {name : String} (h : t.name ≠ lastSegment name)
    (profile : Profile) : t.annotationName profile ≠ name := by
  rintro rfl
  exact h (FrameworkName.lastSegment_text profile (.tag t)).symm

/-- The annotations of tags are apart from one another and from all other names that the rules know,
whatever the roots are. -/
structure NamesApart : Prop where
  eq : ∀ (t u : Tag) (p q : Profile), t.annotationName p = u.annotationName q → t = u ∧ p = q
  designated : ∀ (t : Tag) (d : Designated) (p q : Profile), t.annotationName p ≠ d.typeName q
  builtin : ∀ (t : Tag) (p : Profile), ∀ entry ∈ builtinTypes, t.annotationName p ≠ entry.name
  boxed : ∀ (t : Tag) (p : Profile) (b : Primitive), t.annotationName p ≠ b.boxedName

theorem namesApart : NamesApart where
  eq _ _ _ _ h := eq_of_annotationName_eq h
  designated t d p q h := by
    have heq : FrameworkName.tag t = .designated d := FrameworkName.eq_of_text_eq h
    cases heq
  builtin t p entry hentry := by
    have hwords : ∀ t ∈ all, ∀ entry ∈ builtinTypes, t.name ≠ lastSegment entry.name := by decide
    exact annotationName_ne (hwords t t.mem_all entry hentry) p
  boxed t p b := by
    have hwords : ∀ t ∈ all, ∀ b ∈ Primitive.all, t.name ≠ lastSegment b.boxedName := by decide
    exact annotationName_ne (hwords t t.mem_all b b.mem_all) p

end Tag

/-! ## Tags in a program -/

/-- The id of a name in a program, if the program has a type for it. -/
def Framework.idOf? (f : Framework) : FrameworkName → Option TypeId
  | .tag t => f.tagType? t
  | .designated t => some (f.typeOf t)

theorem Context.Resolved.idOf?_eq {cx : Context} (h : cx.Resolved) (n : FrameworkName) :
    cx.framework.idOf? n = cx.program.typeId? (n.text cx.framework.profile) := by
  cases n with
  | tag t => exact h.tagType t
  | designated t => exact (h.designated t).symm

namespace Program

variable {p : Program} {profile other : Profile} {a : AttachmentId} {d e : DeclId} {t u : Tag}

/-- An attachment puts a declaration under a tag: it is on the declaration, and it is of the tag's
annotation type. -/
def PutsUnder (p : Program) (profile : Profile) (a : AttachmentId) (d : DeclId) (t : Tag) : Prop :=
  ∃ ids, p.attachmentsOf d = .ok ids ∧ a ∈ ids ∧ p.IsTag profile t a

theorem carries_iff_exists_putsUnder :
    p.Carries profile d t ↔ ∃ a, p.PutsUnder profile a d t := by
  constructor
  · rintro ⟨ids, hids, a, ha, htag⟩
    exact ⟨a, ids, hids, ha, htag⟩
  · rintro ⟨a, ids, hids, ha, htag⟩
    exact ⟨ids, hids, a, ha, htag⟩

/-- An attachment is of one tag at most, and of that under one profile only. -/
theorem Indexed.isTag_unique (h : p.Indexed) (ht : p.IsTag profile t a)
    (hu : p.IsTag other u a) : t = u ∧ profile = other := by
  obtain ⟨_, attached, htype, hattached, rfl⟩ := ht
  obtain ⟨_, attached', hother, hattached', rfl⟩ := hu
  obtain rfl := Except.ok.inj (hattached.symm.trans hattached')
  exact Tag.eq_of_annotationName_eq (h.name_unique htype hother)

/-- An attachment is on one declaration. -/
theorem Attached.owner_unique (h : p.Attached) (hd : p.PutsUnder profile a d t)
    (he : p.PutsUnder profile a e u) : d = e := by
  have howner {d : DeclId} {t : Tag} (hd : p.PutsUnder profile a d t) :
      ∃ attached : Attachment, p.attachments[a]? = some attached ∧ attached.owner = d := by
    obtain ⟨ids, hids, ha, -⟩ := hd
    obtain ⟨decl, hdecl, rfl⟩ := map_eq_ok_iff.1 hids
    rw [h.listed (declaration_eq_ok_iff.1 hdecl)] at ha
    exact mem_ownedBy_iff.1 ha
  obtain ⟨attached, hattached, rfl⟩ := howner hd
  obtain ⟨attached', hattached', rfl⟩ := howner he
  rw [Option.some.inj (hattached.symm.trans hattached')]

end Program

namespace Context

variable {cx : Context} {d : DeclId} {t : Tag}

/-- The tags of a program under a profile are apart. -/
structure TagsApart (cx : Context) : Prop where
  /-- No type is the annotation of two tags, or that and a designated type, or two of those. -/
  distinct : ∀ n m id, cx.framework.idOf? n = some id → cx.framework.idOf? m = some id → n = m
  /-- The declarations under a tag are those that an attachment puts there. -/
  tagged : ∀ t d, d ∈ cx.tagged t ↔ ∃ a, cx.program.PutsUnder cx.framework.profile a d t
  carries : ∀ t d, cx.carries d t = .ok true ↔ ∃ a, cx.program.PutsUnder cx.framework.profile a d t
  /-- An attachment puts one declaration under one tag. -/
  single : ∀ a d e t u, cx.program.PutsUnder cx.framework.profile a d t →
    cx.program.PutsUnder cx.framework.profile a e u → d = e ∧ t = u
  /-- The annotation of a tag under another profile is none of the framework's types. -/
  foreign : ∀ other, other ≠ cx.framework.profile → ∀ (t : Tag) id,
    cx.program.typeId? (t.annotationName other) = some id → ∀ n, cx.framework.idOf? n ≠ some id
  /-- An attachment that is of a tag under another profile puts nothing under a tag. -/
  ignored : ∀ other, other ≠ cx.framework.profile → ∀ t a, cx.program.IsTag other t a →
    ∀ d u, ¬ cx.program.PutsUnder cx.framework.profile a d u

theorem Resolved.carries_iff (hcx : cx.Resolved) (hp : cx.program.Attached) :
    cx.carries d t = .ok true ↔ cx.program.Carries cx.framework.profile d t := by
  rw [Program.carries_iff, ← hcx.tagType, carries]
  cases cx.framework.tagType? t with
  | none => simp
  | some type =>
      rw [Option.any_some]
      exact Program.hasAttachment_eq_true_iff hp.exists_attachment type

theorem Resolved.tagsApart (hcx : cx.Resolved) (hindexed : cx.program.Indexed)
    (hp : cx.program.Attached) : cx.TagsApart where
  distinct n m id hn hm := by
    rw [hcx.idOf?_eq] at hn hm
    exact FrameworkName.eq_of_text_eq (hindexed.name_unique hn hm)
  tagged t d := (mem_tagged_iff hp hcx).trans Program.carries_iff_exists_putsUnder
  carries t d := (hcx.carries_iff hp).trans Program.carries_iff_exists_putsUnder
  single a d e t u hd he := by
    obtain ⟨_, _, _, ht⟩ := id hd
    obtain ⟨_, _, _, hu⟩ := id he
    exact ⟨hp.owner_unique hd he, (hindexed.isTag_unique ht hu).1⟩
  foreign other hother t id ht n hn := by
    rw [hcx.idOf?_eq] at hn
    have htext : t.annotationName other = n.text cx.framework.profile :=
      hindexed.name_unique ht hn
    obtain rfl : FrameworkName.tag t = n := FrameworkName.eq_of_text_eq htext
    exact hother (Tag.eq_of_annotationName_eq htext).2
  ignored other hother t a ht d u hd := by
    obtain ⟨_, _, _, hu⟩ := hd
    exact hother (hindexed.isTag_unique ht hu).2

end Context

/-- The annotations of tags have names of their own, whatever the package roots are. So in every program
that edits or a snapshot lead to, under every profile, the types of the framework are different types, an
attachment puts its declaration under one tag at most, and annotations of another profile put nothing
under a tag. -/
theorem Program.tags_apart :
    Tag.NamesApart ∧ ∀ {p : Program} {profile : Profile} {cx : Context}, p.Obtained →
      Context.ofProgram p profile = .ok cx → cx.TagsApart := by
  refine ⟨Tag.namesApart, fun {p profile cx} h hcx => ?_⟩
  obtain ⟨rfl, -, hresolved⟩ := Context.ofProgram_eq_ok_iff.1 hcx
  exact hresolved.tagsApart h.built.indexed h.built.attached

/-- A class under `Mod` of two packages, one of which has no name, and a class under that one alone. -/
def twoRootsExample : Snapshot where
  types := Snapshot.frameworkTypes .default ++ Snapshot.frameworkTypes ⟨""⟩
  declarations := [
    { kind := .classType, name := "a.Both"
      attachments := [{ type := Tag.mod.annotationName .default },
        { type := Tag.mod.annotationName ⟨""⟩ }] },
    { kind := .classType, name := "a.Hidden"
      attachments := [{ type := Tag.mod.annotationName ⟨""⟩ }] }]

theorem Program.exists_tagsApart_twoRootsExample :
    ∃ p cx, twoRootsExample.load = .ok p ∧ Context.ofProgram p .default = .ok cx ∧ cx.TagsApart ∧
      cx.tagged .mod = [0] ∧ p.IsTag ⟨""⟩ .mod 2 ∧ ¬ ∃ d u, p.PutsUnder .default 2 d u := by
  have hrun : (twoRootsExample.load.toOption.any fun p =>
      (Context.ofProgram p .default).toOption.any fun cx =>
        cx.tagged .mod = [0] ∧ (p.typeId? (Tag.mod.annotationName ⟨""⟩)).isSome ∧
          (p.attachment 2).toOption.map Attachment.type =
            p.typeId? (Tag.mod.annotationName ⟨""⟩)) = true := by
    decide +kernel
  obtain ⟨p, hp, hrun⟩ := (Option.any_eq_true _ _).1 hrun
  obtain ⟨cx, hcx, hrun⟩ := (Option.any_eq_true _ _).1 hrun
  obtain ⟨htagged, hsome, htype⟩ := of_decide_eq_true hrun
  rw [toOption_eq_some_iff] at hp hcx
  obtain ⟨id, hid⟩ := Option.isSome_iff_exists.1 hsome
  rw [hid] at htype
  obtain ⟨attached, hattached, rfl⟩ := Option.map_eq_some_iff.1 htype
  have hforeign : p.IsTag ⟨""⟩ .mod 2 :=
    ⟨_, attached, hid, toOption_eq_some_iff.1 hattached, rfl⟩
  have hapart := Program.tags_apart.2 (.loaded hp) hcx
  obtain ⟨rfl, hprofile, -⟩ := Context.ofProgram_eq_ok_iff.1 hcx
  refine ⟨_, cx, hp, hcx, hapart, htagged, hforeign, ?_⟩
  rintro ⟨d, u, hputs⟩
  refine hapart.ignored ⟨""⟩ ?_ .mod 2 hforeign d u (hprofile ▸ hputs)
  rw [hprofile]
  decide

end ModContracts
