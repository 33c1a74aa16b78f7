import ModContracts.Proofs.Contract.Appends
import ModContracts.Proofs.Framework.Apart
import ModContracts.Proofs.Program.Representation
import ModContracts.Proofs.Round.Matched
import ModContracts.Proofs.Round.Pairs
import Mathlib.Data.List.Find

/-!
# One attachment more

An annotation that a declaration does not carry yet is attached to it. Rules look for the annotations of
tags only, and for those of `Mod` and `InstanceFactory` alone on declarations other than the one they
check, so little changes for a round: one pair more, if the annotation is that of a tag, and everything
else as before.

* `Program.matched_affix`, `Program.findAttachment_affix` — what an attachment leaves alone in a
  program;
* `Context.Attachable` — such an attachment, with what is found, listed and checked after it was added;
* `Context.Inserts` — a round that takes one pair more, and does the same with all others;
* `Program.round_of_attach` — the rounds before and after an annotation is attached.
-/

namespace ModContracts

/-! ## Programs -/

namespace Program

variable {p : Program} {attached : Attachment} {d : DeclId} {type : TypeId}

/-- A declaration lists what is attached to it, and is as before otherwise. -/
theorem getElem?_declarations_affix (p : Program) (attached : Attachment) (d : DeclId) :
    (p.affix attached).declarations[d]? = p.declarations[d]?.map fun decl =>
      if attached.owner = d then
        { decl with attachments := decl.attachments ++ [p.attachments.length] }
      else decl := by
  rw [declarations_affix, List.getElem?_modify, Option.map_eq_map]

/-- An attachment changes no query about types or about the rest of a declaration. -/
theorem matched_affix (p : Program) (attached : Attachment) :
    p.Matched id Eq Eq (p.affix attached) := by
  refine .of_types_eq (types_affix p attached) (typeIds_affix p attached)
    (introducing?_affix p attached) fun d => ?_
  unfold declaration
  rw [getElem?_declarations_affix]
  cases p.declarations[d]? with
  | none => exact .error (.refl _)
  | some decl =>
      refine .ok (Declaration.matched_of_eq ?_)
      split <;> rfl

/-- The new attachment is of its own type, and the others are of the types that they were of. -/
theorem isOfType_affix (p : Program) (attached : Attachment) (type : TypeId) (a : AttachmentId) :
    (p.affix attached).isOfType type a =
      if a = p.attachments.length then decide (attached.type = type) else p.isOfType type a := by
  unfold isOfType
  rw [attachments_affix, getElem?_concat_eq_ite]
  split <;> rfl

/-- What was found on a declaration is found again, since a new attachment comes last. What was not
found is found only if it is what was attached. -/
theorem findAttachment_affix (hp : p.Attached) (howner : attached.owner < p.declarations.length)
    (h : attached.owner = d → attached.type ≠ type) :
    (p.affix attached).findAttachment d type = p.findAttachment d type := by
  have hdecl' := getElem?_declarations_affix p attached d
  cases hdecl : p.declarations[d]? with
  | none =>
      rw [hdecl] at hdecl'
      unfold findAttachment attachmentsOf declaration
      rw [hdecl, hdecl']
      rfl
  | some decl =>
      rw [hdecl, Option.map_some] at hdecl'
      have hold : decl.attachments.find? ((p.affix attached).isOfType type) =
          decl.attachments.find? (p.isOfType type) := by
        refine List.find?_congr fun a ha => ?_
        obtain ⟨_, hattached⟩ := hp.exists_attachment decl hdecl a ha
        have hlt := (List.getElem?_eq_some_iff.1 hattached).1
        rw [isOfType_affix, if_neg (Nat.ne_of_lt hlt)]
      rw [findAttachment_eq hdecl (hp.exists_attachment decl hdecl),
        findAttachment_eq hdecl' ((hp.affix attached howner).exists_attachment _ hdecl'), ← hold]
      split
      case isTrue heq =>
          have hnew : [p.attachments.length].find? ((p.affix attached).isOfType type) = none := by
            simp [isOfType_affix, h heq]
          rw [List.find?_append, hnew, Option.or_none]
      case isFalse => rfl

end Program

/-! ## Tags -/

namespace Tag

/-- The tags up to a tag end with it. -/
theorem take_index_succ (tag : Tag) : all.take (tag.index + 1) = all.take tag.index ++ [tag] := by
  cases tag <;> rfl

theorem mem_take_all_iff {tag : Tag} {n : Nat} : tag ∈ all.take n ↔ tag.index < n :=
  List.mem_take_iff_idxOf_lt (mem_all tag)

theorem le_index_of_mem_drop_all {tag : Tag} {n : Nat} (h : tag ∈ all.drop n) : n ≤ tag.index := by
  by_contra hlt
  exact List.disjoint_take_drop nodup_all (Nat.le_refl n) (mem_take_all_iff.2 (Nat.lt_of_not_le hlt)) h

end Tag

/-! ## Checks and rounds that go through -/

namespace Check

/-- Checks for the elements of a list go through when each of them does, and then keep what each of
them reports on its own. -/
theorem ok_of_forM {ι : Type} {xs : List ι} {check : ι → Check Unit} (h : ∀ x, (check x).Appends)
    {prior reports : Diagnostics} (hok : (xs.forM check).after prior = (.ok (), reports)) :
    reports = prior ++ xs.flatMap fun x => (check x).reported := by
  induction xs generalizing prior with
  | nil =>
      have hnone := (yields_pure () prior).symm.trans hok
      exact (Prod.mk.inj hnone).2.symm
  | cons x rest ih =>
      change (check x >>= fun _ => rest.forM check).after prior = _ at hok
      rw [after_bind, (h x).yields prior] at hok
      generalize ((check x).after []).1 = outcome at hok
      cases outcome with
      | error fault => simp at hok
      | ok => rw [ih hok, List.flatMap_cons, List.append_assoc]

end Check

namespace Context

variable (cx : Context)

theorem check_appends (tag : Tag) (d : DeclId) : (cx.check tag d).Appends := by
  refine .ask_bind fun decl => ?_
  split
  · exact .forM fun r => cx.checkRequirement_appends d r
  · exact Check.appends_throw _

/-- What the checks of some pairs report on their own. -/
def reportedBy (pairs : List (Tag × DeclId)) : Diagnostics :=
  pairs.flatMap fun pair => (cx.check pair.1 pair.2).reported

theorem reportedBy_append (xs ys : List (Tag × DeclId)) :
    cx.reportedBy (xs ++ ys) = cx.reportedBy xs ++ cx.reportedBy ys :=
  List.flatMap_append

theorem reportedBy_cons (pair : Tag × DeclId) (rest : List (Tag × DeclId)) :
    cx.reportedBy (pair :: rest) = (cx.check pair.1 pair.2).reported ++ cx.reportedBy rest :=
  List.flatMap_cons

/-- A round that goes through keeps what the pairs report on their own. -/
theorem ok_of_validate {prior reports : Diagnostics} {summary : RoundSummary}
    (h : cx.validate.after prior = (.ok summary, reports)) :
    reports = prior ++ cx.reportedBy cx.pairs := by
  unfold validate at h
  rw [Check.after_bind] at h
  cases hpairs : (cx.pairs.forM fun pair => cx.check pair.1 pair.2).after prior with
  | mk outcome added =>
      rw [hpairs] at h
      cases outcome with
      | error fault => simp at h
      | ok =>
          have hadded := Check.ok_of_forM
            (fun pair : Tag × DeclId => cx.check_appends pair.1 pair.2) hpairs
          exact (Prod.mk.inj h).2.symm.trans hadded

/-! ## Under a framework -/

/-- A program with the same type names has the same framework. -/
theorem ofProgram_of_typeIds_eq {p q : Program} (h : q.typeIds = p.typeIds) (profile : Profile) :
    ofProgram q profile = (ofProgram p profile).map fun cx => { cx with program := q } := by
  have hresolve : Framework.resolve q profile = Framework.resolve p profile := by
    unfold Framework.resolve Framework.require Program.typeId?
    rw [h]
  unfold ofProgram
  rw [hresolve]
  cases Framework.resolve p profile <;> rfl

/-- The context of a program to which one more attachment was added. -/
def affix (attached : Attachment) : Context :=
  { cx with program := cx.program.affix attached }

/-- An attachment that can be added to a program: it puts a declaration that is there under an
annotation that it does not carry yet, and not under one that rules look for on other declarations. -/
structure Attachable (cx : Context) (attached : Attachment) : Prop where
  program : cx.program.Attached
  owner : attached.owner < cx.program.declarations.length
  fresh : attached.owner ∉ cx.program.carriersOf attached.type
  sought : ∀ tag ∈ Tag.sought, cx.framework.tagType? tag ≠ some attached.type

namespace Attachable

variable {cx} {attached : Attachment} (h : cx.Attachable attached) {tag : Tag} {d : DeclId}
include h

/-- A tag that is known by another annotation type than the attachment's, or is looked for on another
declaration, is found where it was found. -/
theorem findTag (hother : attached.owner = d → cx.framework.tagType? tag ≠ some attached.type) :
    (cx.affix attached).findTag d tag = cx.findTag d tag := by
  unfold Context.findTag affix
  cases htype : cx.framework.tagType? tag with
  | none => rfl
  | some type =>
      refine Program.findAttachment_affix h.program h.owner fun heq hsame => hother heq ?_
      rw [htype, hsame]

theorem findMatched
    (hother : attached.owner = d → cx.framework.tagType? tag ≠ some attached.type) :
    FindMatched id Eq cx (cx.affix attached) tag d d := by
  refine .of_eq (h.findTag hother) fun ids a held _ _ hheld => ⟨?_, fun _ _ => rfl⟩
  have hlt := (List.getElem?_eq_some_iff.1 (Program.attachment_eq_ok_iff.1 hheld)).1
  rw [affix, Program.attachment_eq_ok_iff, Program.attachments_affix,
    List.getElem?_append_left hlt, ← Program.attachment_eq_ok_iff, hheld]

/-- Contexts match before and after, so that what is found alike is checked alike. -/
theorem matched : cx.Matched id Eq Eq Eq (cx.affix attached) where
  program := cx.program.matched_affix attached
  designated _ := rfl
  annotationName _ := rfl
  carries := by
    rintro tag htag d _ rfl
    exact (h.findMatched fun _ => h.sought tag htag).carries
  anchor := by
    rintro d _ _ rfl _
    rfl

/-- The declaration comes last under the tag whose annotation is attached. -/
theorem tagged (tag : Tag) :
    (cx.affix attached).tagged tag =
      if cx.framework.tagType? tag = some attached.type then cx.tagged tag ++ [attached.owner]
      else cx.tagged tag := by
  unfold Context.tagged affix
  cases htype : cx.framework.tagType? tag with
  | none => rfl
  | some type =>
      dsimp only
      rw [Program.carriersOf_affix]
      by_cases heq : attached.type = type
      · subst heq
        have hlast : (cx.program.carriersOf attached.type).getLast? ≠ some attached.owner :=
          fun hlast => h.fresh (List.mem_of_getLast? hlast)
        rw [if_pos ⟨rfl, hlast⟩, if_pos rfl]
      · rw [if_neg fun h => heq h.1, if_neg fun h => heq (Option.some.inj h).symm]

/-- A pair that is there already is of a tag with another annotation, or of another declaration. -/
theorem pairMatched {pair : Tag × DeclId} (hmem : pair ∈ cx.pairs) :
    PairMatched id Eq Eq cx (cx.affix attached) pair pair where
  tag := rfl
  declaration := rfl
  own := by
    obtain ⟨tag, d⟩ := pair
    refine h.findMatched fun hd htype => h.fresh ?_
    rw [mem_pairs_iff, Context.tagged, htype] at hmem
    exact hd ▸ hmem

end Attachable

/-! ## Rounds that take one pair more -/

/-- A round takes one pair more than another one, after all other pairs of the same tag, and does the
same with the pairs of both. -/
structure Inserts (cx cx' : Context) (before after : List (Tag × DeclId)) (tag : Tag) (d : DeclId) :
    Prop where
  pairs : cx.pairs = before ++ after
  pairs' : cx'.pairs = before ++ (tag, d) :: after
  fresh : (tag, d) ∉ cx.pairs
  before_le : ∀ pair ∈ before, pair.1.index ≤ tag.index
  lt_after : ∀ pair ∈ after, tag.index < pair.1.index
  check_eq : ∀ pair ∈ cx.pairs, ∀ prior,
    (cx'.check pair.1 pair.2).after prior = (cx.check pair.1 pair.2).after prior

/-- If both rounds go through, the reports of the one are those of the other with what the additional
pair reports inserted in its place. -/
theorem Inserts.reports_eq {cx cx' : Context} {before after : List (Tag × DeclId)} {tag : Tag}
    {d : DeclId} (h : cx.Inserts cx' before after tag d) {prior reports reports' : Diagnostics}
    {summary summary' : RoundSummary} (hround : cx.validate.after prior = (.ok summary, reports))
    (hround' : cx'.validate.after prior = (.ok summary', reports')) :
    reports = prior ++ cx.reportedBy before ++ cx.reportedBy after ∧
      reports' = prior ++ cx.reportedBy before ++ (cx'.check tag d).reported ++
        cx.reportedBy after := by
  have hreported (pair : Tag × DeclId) (hmem : pair ∈ before ++ after) :
      (cx'.check pair.1 pair.2).reported = (cx.check pair.1 pair.2).reported :=
    congrArg Prod.snd (h.check_eq pair (h.pairs ▸ hmem) [])
  have hbefore : cx'.reportedBy before = cx.reportedBy before :=
    List.flatMap_congr fun pair hmem => hreported pair (List.mem_append_left after hmem)
  have hafter : cx'.reportedBy after = cx.reportedBy after :=
    List.flatMap_congr fun pair hmem => hreported pair (List.mem_append_right before hmem)
  refine ⟨?_, ?_⟩
  · rw [cx.ok_of_validate hround, h.pairs, reportedBy_append, List.append_assoc]
  · rw [cx'.ok_of_validate hround', h.pairs', reportedBy_append, reportedBy_cons, hbefore, hafter]
    simp only [List.append_assoc]

namespace Attachable

variable {cx} {attached : Attachment} (h : cx.Attachable attached)
include h

/-- An annotation that is no tag's leaves the pairs of a round, so that it does the same. -/
theorem validate (hother : ∀ tag, cx.framework.tagType? tag ≠ some attached.type) :
    (∀ prior, (cx.affix attached).validate.after prior = cx.validate.after prior) ∧
      (cx.affix attached).listings = cx.listings := by
  have htagged (tag : Tag) : (cx.affix attached).tagged tag = cx.tagged tag := by
    rw [h.tagged, if_neg (hother tag)]
  have hpairs : (cx.affix attached).pairs = cx.pairs := by
    simp only [pairs, htagged]
  have hsummary : (cx.affix attached).summary = cx.summary := by
    simp only [summary, hpairs, htagged]
  have hall : List.Forall₂ (PairMatched id Eq Eq cx (cx.affix attached)) cx.pairs
      (cx.affix attached).pairs := by
    rw [hpairs]
    exact List.forall₂_same.2 fun pair => h.pairMatched
  exact ⟨(h.matched.validate hall hsummary).alike.after_eq,
    (h.matched.listings hall).eq_of_id.symm⟩

section Tagged

variable {tag : Tag} (htag : cx.framework.tagType? tag = some attached.type)
  (honly : ∀ other, cx.framework.tagType? other = some attached.type → other = tag)

include htag in
/-- The tag whose annotation is attached has one pair more. -/
theorem pairsOf_self : (cx.affix attached).pairsOf tag = cx.pairsOf tag ++ [(tag, attached.owner)] := by
  rw [pairsOf, h.tagged, if_pos htag, List.map_append, pairsOf]
  rfl

include honly in
/-- The other tags have the pairs that they had. -/
theorem flatMap_pairsOf {tags : List Tag} (hmem : tag ∉ tags) :
    tags.flatMap (cx.affix attached).pairsOf = tags.flatMap cx.pairsOf := by
  refine List.flatMap_congr fun other hother => ?_
  have hne : cx.framework.tagType? other ≠ some attached.type := fun heq =>
    hmem (honly other heq ▸ hother)
  rw [pairsOf, h.tagged, if_neg hne, pairsOf]

include htag honly in
/-- The annotation of a tag adds one pair to a round. -/
theorem exists_inserts :
    ∃ before after, cx.Inserts (cx.affix attached) before after tag attached.owner := by
  have hbefore := h.flatMap_pairsOf honly fun hmem =>
    Nat.lt_irrefl tag.index (Tag.mem_take_all_iff.1 hmem)
  have hafter := h.flatMap_pairsOf honly fun hmem =>
    Nat.lt_irrefl tag.index (Tag.le_index_of_mem_drop_all hmem)
  refine ⟨_, _, cx.pairs_split (tag.index + 1), ?_, ?_, ?_, ?_, ?_⟩
  · rw [pairs_split _ (tag.index + 1), hafter, Tag.take_index_succ, List.flatMap_append,
      List.flatMap_append, hbefore, List.flatMap_singleton, List.flatMap_singleton,
      h.pairsOf_self htag]
    simp only [List.append_assoc, List.cons_append, List.nil_append]
  · intro hmem
    rw [mem_pairs_iff, Context.tagged, htag] at hmem
    exact h.fresh hmem
  · intro pair hmem
    exact Nat.lt_succ_iff.1 (Tag.mem_take_all_iff.1 (tag_of_mem_pairsOf hmem))
  · intro pair hmem
    exact Tag.le_index_of_mem_drop_all (tag_of_mem_pairsOf hmem)
  · intro pair hmem prior
    exact (h.matched.check rfl (h.pairMatched hmem).own).alike.after_eq prior

end Tagged

end Attachable

end Context

/-! ## Attaching -/

/-- Two tags have different annotations, and those are different types. -/
theorem Context.Resolved.tag_eq {cx : Context} (hcx : cx.Resolved) (hp : cx.program.Indexed)
    {tag other : Tag} {type : TypeId} (htag : cx.framework.tagType? tag = some type)
    (hother : cx.framework.tagType? other = some type) : other = tag := by
  rw [hcx.tagType] at htag hother
  exact (Tag.eq_of_annotationName_eq (hp.name_unique hother htag)).1

namespace Program

/-- An annotation is attached to a declaration of a program that edits lead to. If the declaration did
not carry it, and it is not the one of `Mod` or of `InstanceFactory`, then under every profile:

* if it is the annotation of no tag, a round does the same as before, and so does a listing;
* if it is the annotation of a tag, a round takes the new pair in addition, after all other pairs of the
  tag, and does the same with the others. If both rounds go through, what the new pair reports is
  inserted in its place. -/
theorem round_of_attach {edits : List Edit} {p : Program} {profile : Profile} {d : DeclId}
    {type : TypeId} (h : Program.initial.applyAll edits = some p) (hd : d < p.declarations.length)
    (hfresh : p.hasAttachment d type = .ok false)
    (hmod : p.typeId? (Tag.mod.annotationName profile) ≠ some type)
    (hfactory : p.typeId? (Tag.instanceFactory.annotationName profile) ≠ some type)
    (values : Keyed String Value) :
    ∃ q, p.apply (.attach d type values) = some (q, .attachment p.attachments.length) ∧
      ((∀ tag : Tag, p.typeId? (tag.annotationName profile) ≠ some type) →
        round q profile = round p profile ∧ inspect q profile = inspect p profile) ∧
      ∀ tag : Tag, p.typeId? (tag.annotationName profile) = some type →
        Context.ofProgram q profile =
            (Context.ofProgram p profile).map (fun cx => { cx with program := q }) ∧
          ∀ cx, Context.ofProgram p profile = .ok cx →
            ∃ before after, cx.Inserts { cx with program := q } before after tag d ∧
              ∀ summary summary' reports reports', round p profile = .ok (.ok summary, reports) →
                round q profile = .ok (.ok summary', reports') →
                reports = cx.reportedBy before ++ cx.reportedBy after ∧
                reports' = cx.reportedBy before ++
                  (Context.check { cx with program := q } tag d).reported ++
                  cx.reportedBy after := by
  have hbuilt := built_of_applyAll h
  have hcontext := Context.ofProgram_of_typeIds_eq (typeIds_affix p { owner := d, type, values }) profile
  have hattachable {cx : Context} (hcx : Context.ofProgram p profile = .ok cx) :
      cx.Attachable { owner := d, type, values } := by
    obtain ⟨rfl, rfl, hresolved⟩ := Context.ofProgram_eq_ok_iff.1 hcx
    refine ⟨hbuilt.attached, hd, ?_, ?_⟩
    · rw [hbuilt.attached.mem_carriersOf_iff, hfresh]
      simp
    · simp [Tag.sought, hresolved.tagType, hmod, hfactory]
  refine ⟨p.affix { owner := d, type, values }, ?_, fun hother => ?_, fun tag htag => ?_⟩
  · have hallowed : (Edit.attach d type values).allowed p = true := decide_eq_true hd
    rw [apply, if_pos hallowed]
    rfl
  · cases hcx : Context.ofProgram p profile with
    | error fault =>
        unfold round inspect
        rw [hcontext, hcx]
        exact ⟨rfl, rfl⟩
    | ok cx =>
        obtain ⟨rfl, rfl, hresolved⟩ := Context.ofProgram_eq_ok_iff.1 hcx
        simp only [← hresolved.tagType] at hother
        obtain ⟨hvalidate, hlistings⟩ := (hattachable hcx).validate hother
        unfold round inspect
        rw [hcontext, hcx]
        exact ⟨congrArg Except.ok (hvalidate []),
          congrArg (Except.mapError CheckFault.program) hlistings⟩
  · refine ⟨hcontext, fun cx hcx => ?_⟩
    obtain ⟨rfl, rfl, hresolved⟩ := Context.ofProgram_eq_ok_iff.1 hcx
    rw [← hresolved.tagType] at htag
    obtain ⟨before, after, hinserts⟩ :=
      (hattachable hcx).exists_inserts htag fun _ => hresolved.tag_eq hbuilt.indexed htag
    refine ⟨before, after, hinserts, fun summary summary' reports reports' hround hround' => ?_⟩
    rw [round, hcx] at hround
    rw [round, hcontext, hcx] at hround'
    exact hinserts.reports_eq (Except.ok.inj hround) (Except.ok.inj hround')

/-- A mod without a constructor, which is marked as an event with a result although it is no event, and
a method in it. -/
def tickExample : List Edit :=
  [Profile.default.fmlEvent, Profile.default.event, Profile.default.modMetadata,
    Profile.default.side, Tag.mod.annotationName .default,
    Tag.subscribeEvent.annotationName .default,
    Tag.hasResult.annotationName .default].map (.declareType · []) ++
  [.declareClass none "a.Example" [] (.ofList [.isPublic]),
    .declareMethod 0 "tick" (.ofList [.isPublic]) [] 0, .attach 0 15 [], .attach 0 17 []]

/-- The method is subscribed to events, but takes none. That is reported after what is wrong with the
mod and before what is wrong with the event. -/
theorem exists_round_tickExample :
    ∃ p q cx reports reports', Program.initial.applyAll tickExample = some p ∧
      p.apply (.attach 1 16 []) = some (q, .attachment 2) ∧
      Context.ofProgram p .default = .ok cx ∧
      round p .default = .ok (.ok { tags := 2, checked := 2 }, reports) ∧
      round q .default = .ok (.ok { tags := 3, checked := 3 }, reports') ∧
      reports.map Diagnostic.code = [.missingConstructor, .notSubtype] ∧
      reports'.map Diagnostic.code = [.missingConstructor, .invalidParameters, .notSubtype] ∧
      ∃ before after, cx.Inserts { cx with program := q } before after .subscribeEvent 1 ∧
        reports = cx.reportedBy before ++ cx.reportedBy after := by
  have hrun : (Program.initial.applyAll tickExample).any (fun p =>
      p.declarations.length = 2 && p.attachments.length = 2 &&
        p.hasAttachment 1 16 = .ok false &&
        p.typeId? (Tag.mod.annotationName .default) = some 15 &&
        p.typeId? (Tag.subscribeEvent.annotationName .default) = some 16 &&
        p.typeId? (Tag.instanceFactory.annotationName .default) = none &&
        ((round p .default).toOption.any fun r => r.1 = .ok { tags := 2, checked := 2 } &&
          r.2.map Diagnostic.code = [.missingConstructor, .notSubtype]) &&
        ((p.apply (.attach 1 16 [])).any fun q =>
          (round q.1 .default).toOption.any fun r => r.1 = .ok { tags := 3, checked := 3 } &&
            r.2.map Diagnostic.code = [.missingConstructor, .invalidParameters, .notSubtype])) =
      true := by
    decide +kernel
  obtain ⟨p, hp, hfacts⟩ := (Option.any_eq_true _ _).1 hrun
  simp only [Bool.and_eq_true, decide_eq_true_eq] at hfacts
  obtain ⟨⟨⟨⟨⟨⟨⟨hlength, hattachments⟩, hfresh⟩, hmod⟩, htag⟩, hfactory⟩, hround⟩, hattached⟩ := hfacts
  have hexists : 1 < p.declarations.length := by rw [hlength]; decide
  have hother : p.typeId? (Tag.mod.annotationName .default) ≠ some 16 := by rw [hmod]; decide
  have hnone : p.typeId? (Tag.instanceFactory.annotationName .default) ≠ some 16 := by
    rw [hfactory]
    decide
  obtain ⟨q, happly, -, hinserted⟩ := round_of_attach hp hexists hfresh hother hnone []
  rw [hattachments] at happly
  obtain ⟨⟨q', _⟩, hq', hround'⟩ := (Option.any_eq_true _ _).1 hattached
  obtain ⟨rfl, rfl⟩ := Prod.mk.inj (Option.some.inj (happly.symm.trans hq'))
  obtain ⟨⟨_, reports⟩, hreports, hcodes⟩ := (Option.any_eq_true _ _).1 hround
  obtain ⟨⟨_, reports'⟩, hreports', hcodes'⟩ := (Option.any_eq_true _ _).1 hround'
  simp only [Bool.and_eq_true, decide_eq_true_eq] at hcodes hcodes'
  obtain ⟨rfl, hcodes⟩ := hcodes
  obtain ⟨rfl, hcodes'⟩ := hcodes'
  have hround := toOption_eq_some_iff.1 hreports
  have hround' := toOption_eq_some_iff.1 hreports'
  obtain ⟨cx, hcx, -⟩ := map_eq_ok_iff.1 hround
  obtain ⟨before, after, hinserts, hsame⟩ := (hinserted .subscribeEvent htag).2 cx hcx
  exact ⟨p, q, cx, reports, reports', hp, happly, hcx, hround, hround', hcodes, hcodes', before,
    after, hinserts, (hsame _ _ _ _ hround hround').1⟩

end Program

end ModContracts
