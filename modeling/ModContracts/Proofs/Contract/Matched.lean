import ModContracts.Round
import ModContracts.Proofs.Check
import ModContracts.Proofs.Program.Matched
import ModContracts.Proofs.Program.Queries

/-!
# Checks side by side

The rules are run on two programs, on declarations that correspond. They go the same way at every turn:
what they ask is answered alike, so what they compare compares alike, and they report the same
violations at corresponding places. All that a rule reads is what it takes for that: queries about the
program, the first attachment of its own tag, and of other declarations only whether they carry `Mod` or
`InstanceFactory`.

* `Diagnostic.Matched`, `Check.Matched` — reports that correspond, and checks that yield them, with the
  laws of their parts;
* `Diagnostic.Alike`, `Check.Alike` — reports that differ in texts only, and checks that yield them;
* `Context.FindMatched`, `Context.Matched` — contexts in which tags and programs correspond;
* `Context.Matched.ensureModifier` and the other lemmas of this form — one for each fact that
  requirements are made of;
* `Requirement.sought?`, `Requirement.reads?` — the tags a requirement looks for on other declarations,
  and those whose attachment it looks into;
* `Context.Matched.checkRequirement`, `Context.Matched.check` — every requirement, and every contract.
-/

namespace ModContracts

variable {ρ : String → String} {T : TypeId → TypeId → Prop} {D : DeclId → DeclId → Prop}
  {N : Anchor → Anchor → Prop}

/-! ## Reports -/

/-- Diagnostics of the same code about corresponding places, whose texts agree unless types are
renamed. -/
inductive Diagnostic.Matched (ρ : String → String) (N : Anchor → Anchor → Prop) :
    Diagnostic → Diagnostic → Prop where
  | render (code : Code) {subject subject' expected expected' : String} {anchor anchor' : Anchor}
      (hsubject : AgreeUnder ρ subject subject') (hexpected : AgreeUnder ρ expected expected')
      (hanchor : N anchor anchor') :
      Diagnostic.Matched ρ N (code.render subject expected anchor)
        (code.render subject' expected' anchor')

namespace Check

variable {α β γ δ : Type} {R : α → β → Prop} {S : γ → δ → Prop} {c : Check α} {c' : Check β}
  {f : α → Check γ} {f' : β → Check δ}

/-- Two checks have outcomes that are alike and add reports that correspond, whatever was reported
before each of them. -/
def Matched (ρ : String → String) (N : Anchor → Anchor → Prop) (R : α → β → Prop) (c : Check α)
    (c' : Check β) : Prop :=
  ∃ outcome outcome' ds ds', c.Yields outcome ds ∧ c'.Yields outcome' ds' ∧
    ResultsAlike ρ R outcome outcome' ∧ List.Forall₂ (Diagnostic.Matched ρ N) ds ds'

theorem matched_pure {a : α} {b : β} (h : R a b) : Matched ρ N R (pure a) (pure b) :=
  ⟨_, _, _, _, yields_pure a, yields_pure b, .ok h, .nil⟩

theorem matched_throw {fault fault' : CheckFault} (h : AgreeUnder ρ fault fault') :
    Matched ρ N R (throw fault) (throw fault') :=
  ⟨_, _, _, _, yields_throw fault, yields_throw fault', .error h, .nil⟩

theorem matched_report (code : Code) {subject subject' expected expected' : String}
    {anchor anchor' : Anchor} (hsubject : AgreeUnder ρ subject subject')
    (hexpected : AgreeUnder ρ expected expected') (hanchor : N anchor anchor') :
    Matched ρ N Eq (report code subject expected anchor) (report code subject' expected' anchor') :=
  ⟨_, _, _, _, yields_report code subject expected anchor,
    yields_report code subject' expected' anchor', .ok rfl,
    .cons (.render code hsubject hexpected hanchor) .nil⟩

theorem matched_ask {answer : Answer α} {answer' : Answer β} (h : ResultsAlike ρ R answer answer') :
    Matched ρ N R (ask answer) (ask answer') := by
  cases h with
  | ok h => exact matched_pure h
  | error h => exact matched_throw (h.map CheckFault.program)

/-- A check that faults faults beside one that faults, and what comes after them is not run. -/
theorem Matched.bind (hc : Matched ρ N R c c') (hf : ∀ a b, R a b → Matched ρ N S (f a) (f' b)) :
    Matched ρ N S (c >>= f) (c' >>= f') := by
  obtain ⟨_, _, ds, ds', hyields, hyields', hresult, hreports⟩ := hc
  cases hresult with
  | ok h =>
      obtain ⟨_, _, es, es', hnext, hnext', hresult, hmore⟩ := hf _ _ h
      exact ⟨_, _, _, _, hyields.bind hnext, hyields'.bind hnext', hresult,
        List.rel_append hreports hmore⟩
  | error h => exact ⟨_, _, _, _, hyields.bind_error, hyields'.bind_error, .error h, hreports⟩

theorem Matched.ask_bind {answer : Answer α} {answer' : Answer β} (h : ResultsAlike ρ R answer answer')
    (hf : ∀ a b, R a b → Matched ρ N S (f a) (f' b)) :
    Matched ρ N S (ask answer >>= f) (ask answer' >>= f') :=
  (matched_ask h).bind hf

/-- Questions whose answers are known are replaced by them. -/
theorem Matched.ask_ok {answer : Answer α} {answer' : Answer β} {a : α} {b : β}
    (h : answer = .ok a) (h' : answer' = .ok b) (hf : Matched ρ N S (f a) (f' b)) :
    Matched ρ N S (ask answer >>= f) (ask answer' >>= f') := by
  subst h h'
  have hanswers : ResultsAlike ρ (fun x y => x = a ∧ y = b) (.ok a : Answer α) (.ok b : Answer β) :=
    .ok ⟨rfl, rfl⟩
  refine .ask_bind hanswers ?_
  rintro x y ⟨rfl, rfl⟩
  exact hf

/-- Checks for the elements of two lists that correspond one by one. -/
theorem Matched.forM {ι κ : Type} {R : ι → κ → Prop} {xs : List ι} {ys : List κ} {check : ι → Check Unit}
    {check' : κ → Check Unit} (hlists : List.Forall₂ R xs ys)
    (h : ∀ x y, R x y → Matched ρ N Eq (check x) (check' y)) :
    Matched ρ N Eq (xs.forM check) (ys.forM check') := by
  induction hlists with
  | nil => exact matched_pure rfl
  | cons hfirst _ ih => exact (h _ _ hfirst).bind fun _ _ _ => ih

/-- Checks for all elements of one list. -/
theorem Matched.forM_same {ι : Type} {xs : List ι} {check check' : ι → Check Unit}
    (h : ∀ x ∈ xs, Matched ρ N Eq (check x) (check' x)) :
    Matched ρ N Eq (xs.forM check) (xs.forM check') := by
  have hself : List.Forall₂ (fun x y => x = y ∧ x ∈ xs) xs xs :=
    List.forall₂_same.2 fun x hx => ⟨rfl, hx⟩
  refine Matched.forM hself ?_
  rintro x _ ⟨rfl, hmem⟩
  exact h x hmem

/-- A comparison that comes out the same before checks that match. -/
theorem Matched.unless {met met' : Prop} [Decidable met] [Decidable met'] (hmet : met' ↔ met)
    {c c' : Check Unit} (h : Matched ρ N Eq c c') :
    Matched ρ N Eq (if met then pure () else c : Check Unit) (if met' then pure () else c') := by
  by_cases hm : met
  · rw [if_pos hm, if_pos (hmet.2 hm)]
    exact matched_pure rfl
  · rw [if_neg hm, if_neg (mt hmet.1 hm)]
    exact h

end Check

/-! ## The same places -/

/-- Diagnostics that agree but for texts. -/
structure Diagnostic.Alike (ρ : String → String) (report report' : Diagnostic) : Prop where
  severity : report'.severity = report.severity
  code : report'.code = report.code
  message : AgreeUnder ρ report.message report'.message
  anchor : report'.anchor = report.anchor

theorem Diagnostic.Alike.eq_of_id {report report' : Diagnostic}
    (h : Diagnostic.Alike id report report') : report = report' := by
  obtain ⟨severity, code, message, anchor⟩ := report
  obtain ⟨severity', code', message', anchor'⟩ := report'
  obtain rfl : severity' = severity := h.severity
  obtain rfl : code' = code := h.code
  obtain rfl : message = message' := h.message rfl
  obtain rfl : anchor' = anchor := h.anchor
  rfl

theorem Diagnostic.Matched.alike {report report' : Diagnostic}
    (h : Diagnostic.Matched ρ Eq report report') : Diagnostic.Alike ρ report report' := by
  obtain ⟨code, hsubject, hexpected, rfl⟩ := h
  exact ⟨rfl, rfl, hsubject.map₂ (fun s e => s ++ code.template ++ e) hexpected, rfl⟩

/-- Diagnostics that agree, one by one, are the same if no name is changed. -/
theorem Diagnostic.eq_of_forall₂_id {reports reports' : Diagnostics}
    (h : List.Forall₂ (Diagnostic.Alike id) reports reports') : reports = reports' := by
  induction h with
  | nil => rfl
  | cons hfirst _ ih => rw [hfirst.eq_of_id, ih]

namespace Check

variable {α β : Type} {R : α → β → Prop} {c : Check α} {c' : Check β}

/-- Two checks have outcomes that are alike and leave reports that are alike, after any reports that
are alike. -/
def Alike (ρ : String → String) (R : α → β → Prop) (c : Check α) (c' : Check β) : Prop :=
  ∀ reports reports', List.Forall₂ (Diagnostic.Alike ρ) reports reports' →
    ResultsAlike ρ R (c.after reports).1 (c'.after reports').1 ∧
    List.Forall₂ (Diagnostic.Alike ρ) (c.after reports).2 (c'.after reports').2

/-- Checks that match at the same places leave reports that are alike after any that are. -/
theorem Matched.alike (h : Matched ρ Eq R c c') : Alike ρ R c c' := by
  obtain ⟨outcome, outcome', ds, ds', hyields, hyields', hresult, hreports⟩ := h
  intro reports reports' hprior
  rw [hyields reports, hyields' reports']
  exact ⟨hresult, List.rel_append hprior (hreports.imp fun _ _ hreport => hreport.alike)⟩

/-- Checks that are alike do the same if no name is changed. -/
theorem Alike.after_eq {c c' : Check α} (h : Alike id Eq c c') (prior : Diagnostics) :
    c'.after prior = c.after prior := by
  have hprior : List.Forall₂ (Diagnostic.Alike id) prior prior :=
    List.forall₂_same.2 fun _ _ => ⟨rfl, rfl, .refl _, rfl⟩
  obtain ⟨houtcome, hreports⟩ := h prior prior hprior
  exact (Prod.ext (houtcome.mono fun _ _ => AgreeUnder.of_eq).eq_of_id
    (Diagnostic.eq_of_forall₂_id hreports)).symm

end Check

/-! ## Contexts -/

/-- Attachments of a tag that hold the same, as far as the rules of the tag read them. -/
structure Attachment.Matched (ρ : String → String) (tag : Tag) (attached attached' : Attachment) :
    Prop where
  value : tag = .modInstance → attached'.str? "value" = attached.str? "value"
  sides : tag = .sidedProxy → ∀ side ∈ Context.proxySides,
    attached'.str? side = (attached.str? side).map ρ

namespace Context

variable {cx cx' : Context} {d d' : DeclId} {tag : Tag}

/-- The first attachment of a tag on a declaration. -/
def findTag (cx : Context) (d : DeclId) (tag : Tag) : Answer (Option AttachmentId) :=
  match cx.framework.tagType? tag with
  | some type => cx.program.findAttachment d type
  | none => .ok none

theorem carries_eq_map_findTag (cx : Context) (d : DeclId) (tag : Tag) :
    cx.carries d tag = (cx.findTag d tag).map Option.isSome := by
  unfold carries findTag
  cases cx.framework.tagType? tag <;> rfl

/-- What is found for a tag is attached to the declaration that is asked about. -/
theorem mem_of_findTag {a : AttachmentId} (h : cx.findTag d tag = .ok (some a)) :
    ∃ ids attached, cx.program.attachmentsOf d = .ok ids ∧ a ∈ ids ∧
      cx.program.attachment a = .ok attached := by
  unfold findTag at h
  split at h
  case h_1 type _ =>
      obtain ⟨ids, hids, hfirst⟩ := bind_eq_ok_iff.1 h
      obtain ⟨hmem, attached, hattached, -⟩ := Program.mem_of_firstOfType hfirst
      exact ⟨ids, attached, hids, hmem, hattached⟩
  case h_2 => simp at h

/-- The attachment that puts a declaration under a tag, or the fault that there is none. -/
theorem tagAttachment_eq (cx : Context) (d : DeclId) (tag : Tag) :
    cx.tagAttachment d tag = (do
      match ← Check.ask (cx.findTag d tag) with
      | some a => return a
      | none =>
        let decl ← Check.ask (cx.program.declaration d)
        throw (.missingAttachment tag decl.kind decl.name)) := by
  unfold tagAttachment findTag
  cases cx.framework.tagType? tag <;> rfl

/-- Two attachments of a tag, on two declarations, that hold the same. The sides of a proxy that name
classes are corresponding places. -/
def OwnMatched (ρ : String → String) (N : Anchor → Anchor → Prop) (cx cx' : Context) (tag : Tag)
    (d d' : DeclId) (a a' : AttachmentId) : Prop :=
  ∃ attached attached', cx.program.attachment a = .ok attached ∧
    cx'.program.attachment a' = .ok attached' ∧ attached.Matched ρ tag attached' ∧
    (tag = .sidedProxy → ∀ side ∈ namedSides attached, N (.value d a side) (.value d' a' side))

/-- The first attachments of a tag on two declarations hold the same, or there is none on either. -/
def FindMatched (ρ : String → String) (N : Anchor → Anchor → Prop) (cx cx' : Context) (tag : Tag)
    (d d' : DeclId) : Prop :=
  ResultsAlike ρ (Option.Rel (OwnMatched ρ N cx cx' tag d d')) (cx.findTag d tag)
    (cx'.findTag d' tag)

/-- What is found alike is carried alike. -/
theorem FindMatched.carries (h : FindMatched ρ N cx cx' tag d d') :
    ResultsAlike ρ Eq (cx.carries d tag) (cx'.carries d' tag) := by
  rw [carries_eq_map_findTag, carries_eq_map_findTag]
  refine h.map fun found? found'? hfound => ?_
  cases hfound <;> rfl

/-- What is found for a tag is the same if the answers are, and the attachments behind them. -/
theorem FindMatched.of_eq (hfind : cx'.findTag d tag = cx.findTag d tag)
    (h : ∀ ids a attached, cx.program.attachmentsOf d = .ok ids → a ∈ ids →
      cx.program.attachment a = .ok attached → cx'.program.attachment a = .ok attached ∧
        ∀ side ∈ namedSides attached, N (.value d a side) (.value d a side)) :
    FindMatched id N cx cx' tag d d := by
  unfold FindMatched
  rw [hfind]
  refine .refl fun found? hfound => rel_self ?_
  rintro a rfl
  obtain ⟨ids, attached, hids, ha, hattached⟩ := mem_of_findTag hfound
  obtain ⟨hattached', hsides⟩ := h ids a attached hids ha hattached
  have hself : attached.Matched id tag attached :=
    ⟨fun _ => rfl, fun _ _ _ => Option.map_id_apply.symm⟩
  exact ⟨attached, attached, hattached, hattached', hself, fun _ => hsides⟩

end Context

/-- The tags that rules look for on declarations other than the one they check. -/
def Tag.sought : List Tag := [.mod, .instanceFactory]

/-- Contexts of programs that match, whose frameworks stand for corresponding types. -/
structure Context.Matched (ρ : String → String) (T : TypeId → TypeId → Prop)
    (D : DeclId → DeclId → Prop) (N : Anchor → Anchor → Prop) (cx cx' : Context) : Prop where
  program : cx.program.Matched ρ T D cx'.program
  designated : ∀ t : Designated, T (cx.framework.typeOf t) (cx'.framework.typeOf t)
  annotationName : ∀ tag : Tag,
    tag.annotationName cx'.framework.profile = ρ (tag.annotationName cx.framework.profile)
  /-- The same declarations carry the tags that are looked for. -/
  carries : ∀ tag ∈ Tag.sought, ∀ {d d' : DeclId}, D d d' →
    ResultsAlike ρ Eq (cx.carries d tag) (cx'.carries d' tag)
  /-- Corresponding declarations are corresponding places, if they are there. -/
  anchor : ∀ {d d' : DeclId} {decl : Declaration}, D d d' → cx.program.declaration d = .ok decl →
    N (.declaration d) (.declaration d')

open Check

namespace Context.Matched

variable {cx cx' : Context} (h : cx.Matched ρ T D N cx')
include h

/-! ## Facts about one declaration -/

/-- A declaration that can be described is there, so that a report can be pinned to it. -/
theorem subject {d d' : DeclId} (hd : D d d') :
    ResultsAlike ρ (fun s s' => AgreeUnder ρ s s' ∧ N (.declaration d) (.declaration d'))
      (cx.program.describe d) (cx'.program.describe d') := by
  refine (h.program.describe hd).and_eq.mono fun subject subject' hsubject => ⟨hsubject.1, ?_⟩
  obtain ⟨decl, hdecl, -⟩ := map_eq_ok_iff.1 hsubject.2.1
  exact h.anchor hd hdecl

theorem reportOn {d d' : DeclId} (hd : D d d') (code : Code) {expected expected' : String}
    (hexpected : AgreeUnder ρ expected expected') :
    Check.Matched ρ N Eq (cx.reportOn d code expected) (cx'.reportOn d' code expected') :=
  .ask_bind (h.subject hd) fun _ _ hsubject => matched_report code hsubject.1 hexpected hsubject.2

/-- A question whose answer is compared, and reported on unless the comparison is met. -/
theorem comparison {α β : Type} {R : α → β → Prop} {actual : Answer α} {actual' : Answer β}
    {met : α → Bool} {met' : β → Bool} {expected expected' : Answer String} {d d' : DeclId}
    (hd : D d d') (hactual : ResultsAlike ρ R actual actual')
    (hmet : ∀ a b, R a b → met' b = met a)
    (hexpected : ResultsAlike ρ (AgreeUnder ρ) expected expected') (code : Code) :
    Check.Matched ρ N Eq
      (do
        let a ← ask actual
        if met a then return
        let subject ← ask (cx.program.describe d)
        let expected ← ask expected
        report code subject expected (.declaration d) : Check Unit)
      (do
        let a ← ask actual'
        if met' a then return
        let subject ← ask (cx'.program.describe d')
        let expected ← ask expected'
        report code subject expected (.declaration d')) := by
  refine .ask_bind hactual fun a b hab => .unless (by rw [hmet a b hab]) ?_
  refine .ask_bind (h.subject hd) fun s s' hs => .ask_bind hexpected fun e e' he => ?_
  exact matched_report code hs.1 he hs.2

theorem ensureModifier {d d' : DeclId} (hd : D d d') (m : Modifier) (required : Bool) :
    Check.Matched ρ N Eq (cx.ensureModifier d m required) (cx'.ensureModifier d' m required) := by
  unfold Context.ensureModifier
  refine .ask_bind (h.program.modifiersOf hd) fun modifiers _ hmodifiers => ?_
  subst hmodifiers
  refine .unless Iff.rfl ?_
  cases modifierCode? m required with
  | none => exact matched_pure rfl
  | some code => exact h.reportOn hd code (.refl "")

/-! ### Signatures -/

theorem signatureText {parameters parameters' : List TypeId}
    (hparameters : List.Forall₂ T parameters parameters') :
    ResultsAlike ρ (AgreeUnder ρ) (cx.signatureText parameters) (cx'.signatureText parameters') := by
  unfold Context.signatureText
  have hnames := ResultsAlike.mapM hparameters fun _ _ ht => h.program.typeName ht
  refine hnames.map fun names names' hsame => ?_
  exact (AgreeUnder.of_forall₂ hsame).map fun names => "(" ++ ", ".intercalate names ++ ")"

theorem signatureMatches {actual actual' requested requested' : List TypeId}
    (hactual : List.Forall₂ T actual actual') (hrequested : List.Forall₂ T requested requested') :
    cx'.signatureMatches actual' requested' = cx.signatureMatches actual requested := by
  unfold Context.signatureMatches
  rw [← hactual.length_eq, ← hrequested.length_eq]
  congr 1
  induction hactual generalizing requested requested' with
  | nil => rfl
  | cons ha _ ih =>
      cases hrequested with
      | nil => rfl
      | cons hr hrest =>
          have hfirst := h.program.isSubtype ha hr
          simp only [List.zip_cons_cons, List.all_cons, hfirst, ih hrest]

theorem firstConstructor {parameters parameters' : List TypeId}
    (hparameters : List.Forall₂ T parameters parameters') {members members' : List DeclId}
    (hmembers : List.Forall₂ D members members') :
    ResultsAlike ρ (Option.Rel D) (cx.firstConstructor parameters members)
      (cx'.firstConstructor parameters' members') := by
  induction hmembers with
  | nil => exact .ok .none
  | cons hmember _ ih =>
      refine (h.program.declaration hmember).bind fun decl decl' hdecl => ?_
      rw [hdecl.kind, h.signatureMatches hdecl.parameters hparameters]
      split
      · exact .ok (.some hmember)
      · exact ih

/-- A missing constructor is reported at the declaration, or at a place that is given. -/
theorem ensureConstructor {d d' : DeclId} (hd : D d d') {parameters parameters' : List TypeId}
    (hparameters : List.Forall₂ T parameters parameters') {anchor? anchor'? : Option Anchor}
    (hanchor : Option.Rel N anchor? anchor'?) :
    Check.Matched ρ N Eq (cx.ensureConstructor d parameters anchor?)
      (cx'.ensureConstructor d' parameters' anchor'?) := by
  unfold Context.ensureConstructor
  refine .ask_bind (h.program.membersOf hd) fun members members' hmembers => ?_
  refine .ask_bind (h.firstConstructor hparameters hmembers) fun found? found'? hfound => ?_
  cases hfound with
  | none =>
      refine .ask_bind (h.subject hd) fun _ _ hsubject => ?_
      refine .ask_bind (h.signatureText hparameters) fun _ _ hexpected => ?_
      refine matched_report .missingConstructor hsubject.1 hexpected ?_
      cases hanchor with
      | none => exact hsubject.2
      | some hanchor => exact hanchor
  | some hfound => exact h.ensureModifier hfound .isPublic true

theorem ensureParameters {d d' : DeclId} (hd : D d d') {parameters parameters' : List TypeId}
    (hparameters : List.Forall₂ T parameters parameters') :
    Check.Matched ρ N Eq (cx.ensureParameters d parameters) (cx'.ensureParameters d' parameters') :=
  h.comparison hd (h.program.parametersOf hd)
    (fun _ _ hactual => h.signatureMatches hactual hparameters) (h.signatureText hparameters) _

/-! ### Types -/

section OneType

variable {d d' : DeclId} (hd : D d d') {t t' : TypeId} (ht : T t t')
include hd ht

theorem ensureReturn : Check.Matched ρ N Eq (cx.ensureReturn d t) (cx'.ensureReturn d' t') :=
  h.comparison hd (h.program.returnTypeOf hd) (fun _ _ hactual => h.program.isSameType hactual ht)
    (h.program.typeName ht) _

theorem ensureInstanceOf :
    Check.Matched ρ N Eq (cx.ensureInstanceOf d t) (cx'.ensureInstanceOf d' t') :=
  h.comparison hd (h.program.typeOf hd) (fun _ _ hactual => h.program.isSubtype hactual ht)
    (h.program.simpleTypeName ht) _

theorem ensureAssignable :
    Check.Matched ρ N Eq (cx.ensureAssignable d t) (cx'.ensureAssignable d' t') :=
  h.comparison hd (h.program.typeOf hd) (fun _ _ htarget => h.program.isAssignable ht htarget)
    (h.program.simpleTypeName ht) _

theorem ensureSame : Check.Matched ρ N Eq (cx.ensureSame d t) (cx'.ensureSame d' t') :=
  h.comparison hd (h.program.typeOf hd) (fun _ _ hactual => h.program.isSameType hactual ht)
    (h.program.simpleTypeName ht) _

end OneType

/-! ## Tags of other declarations -/

section Sought

variable {tag : Tag} (htag : tag ∈ Tag.sought)
include htag

theorem ensureOwnerCarries {d d' : DeclId} (hd : D d d') :
    Check.Matched ρ N Eq (cx.ensureOwnerCarries d tag) (cx'.ensureOwnerCarries d' tag) := by
  refine .ask_bind (h.program.ownerOf hd) fun owner owner' howner => ?_
  refine .ask_bind (h.carries tag htag howner) fun carried _ hcarried => ?_
  subst hcarried
  exact .unless Iff.rfl (h.reportOn hd .ownerNotTagged (.refl _))

theorem countCarrying {ds ds' : List DeclId} (hds : List.Forall₂ D ds ds') :
    ResultsAlike ρ Eq (cx.countCarrying tag ds) (cx'.countCarrying tag ds') := by
  induction hds with
  | nil => exact .ok rfl
  | cons hd _ ih =>
      refine (h.carries tag htag hd).bind fun carried _ hcarried => ?_
      subst hcarried
      refine ih.bind fun others _ hothers => ?_
      subst hothers
      exact .ok rfl

theorem ensureElementCount {d d' : DeclId} (hd : D d d') (low high : Nat) :
    Check.Matched ρ N Eq (cx.ensureElementCount d tag low high)
      (cx'.ensureElementCount d' tag low high) := by
  have hexpected : AgreeUnder ρ (tag.annotationName cx.framework.profile)
      (tag.annotationName cx'.framework.profile) := by
    rw [h.annotationName]
    exact .rename _
  unfold Context.ensureElementCount
  refine .ask_bind (h.program.ownerOf hd) fun owner owner' howner => ?_
  refine .ask_bind (h.program.membersOf howner) fun members members' hmembers => ?_
  refine .ask_bind (h.countCarrying htag hmembers) fun count _ hcount => ?_
  subst hcount
  dsimp only
  split
  · exact h.reportOn hd .notEnough hexpected
  · split
    · exact h.reportOn hd .tooMany hexpected
    · exact matched_pure rfl

end Sought

/-! ## Values of the tag's own attachment -/

/-- The attachments that put two declarations under a tag. -/
theorem tagAttachment {tag : Tag} {d d' : DeclId} (hd : D d d')
    (hown : FindMatched ρ N cx cx' tag d d') :
    Check.Matched ρ N (OwnMatched ρ N cx cx' tag d d') (cx.tagAttachment d tag)
      (cx'.tagAttachment d' tag) := by
  rw [tagAttachment_eq, tagAttachment_eq]
  refine .ask_bind hown fun found? found'? hfound => ?_
  cases hfound with
  | none =>
      refine .ask_bind (h.program.declaration hd) fun decl decl' hdecl => ?_
      rw [hdecl.kind]
      exact matched_throw (hdecl.name.map (CheckFault.missingAttachment tag decl.kind))
  | some ha => exact matched_pure ha

theorem ensureInstanceType {d d' : DeclId} (hd : D d d')
    (hown : FindMatched ρ N cx cx' .modInstance d d') :
    Check.Matched ρ N Eq (cx.ensureInstanceType d) (cx'.ensureInstanceType d') := by
  unfold Context.ensureInstanceType
  refine (h.tagAttachment hd hown).bind fun a a' ha => ?_
  obtain ⟨attached, attached', hattached, hattached', hmatched, -⟩ := ha
  refine .ask_ok hattached hattached' ?_
  refine .unless (by rw [hmatched.value rfl]) ?_
  refine .ask_bind (h.program.ownerOf hd) fun owner owner' howner => ?_
  refine .ask_bind (h.program.typeOf howner) fun t t' ht => ?_
  exact (h.ensureAssignable hd ht).bind fun _ _ _ => h.ensureSame hd ht

section Proxies

variable {d d' : DeclId} {a a' : AttachmentId} {attached attached' : Attachment}
  (hattached : cx.program.attachment a = .ok attached)
  (hattached' : cx'.program.attachment a' = .ok attached')
  (hsides : ∀ side ∈ proxySides, attached'.str? side = (attached.str? side).map ρ)
include hsides

/-- What a side names in the one attachment is what it names in the other, renamed. -/
theorem className {side : String} (hside : side ∈ proxySides) :
    (attached'.str? side).getD "" = ρ ((attached.str? side).getD "") := by
  rw [hsides side hside]
  cases attached.str? side with
  | none => exact ((h.program.empty "").2 rfl).symm
  | some name => rfl

/-- A side names a class in the one attachment exactly if it does in the other. -/
theorem namedSides : namedSides attached' = Context.namedSides attached := by
  unfold Context.namedSides
  refine List.filter_congr fun side hside => ?_
  simp only [h.className hsides hside, ne_eq, h.program.empty]

include hattached hattached'

/-- The class that a side of a proxy names has a counterpart, unless neither program knows it. -/
theorem ensureClassExists {side : String} (hside : side ∈ proxySides)
    (hanchor : N (.value d a side) (.value d' a' side)) :
    Check.Matched ρ N (Option.Rel T) (cx.ensureClassExists d a side)
      (cx'.ensureClassExists d' a' side) := by
  unfold Context.ensureClassExists
  refine .ask_ok hattached hattached' ?_
  dsimp only
  rw [h.className hsides hside]
  generalize (attached.str? side).getD "" = name
  rcases rel_cases (h.program.typeId? name) with ⟨hnone, hnone'⟩ | ⟨t, t', hsome, hsome', ht⟩
  · rw [hnone, hnone']
    have hsubject : AgreeUnder ρ ("Class " ++ name) ("Class " ++ ρ name) :=
      (AgreeUnder.rename name).map ("Class " ++ ·)
    exact (matched_report .notFound hsubject (.refl "") hanchor).bind fun _ _ _ =>
      matched_pure .none
  · rw [hsome, hsome']
    exact matched_pure (.some ht)

/-- The sides whose class is known are the same, with classes that correspond. -/
theorem resolveSides (sides : List String)
    (hnamed : ∀ side ∈ sides, side ∈ proxySides ∧ N (.value d a side) (.value d' a' side)) :
    Check.Matched ρ N
      (List.Forall₂ fun x y => x.1 = y.1 ∧ T x.2 y.2 ∧ N (.value d a x.1) (.value d' a' y.1))
      (cx.resolveSides d a sides) (cx'.resolveSides d' a' sides) := by
  induction sides with
  | nil => exact matched_pure .nil
  | cons side rest ih =>
      rw [List.forall_mem_cons] at hnamed
      obtain ⟨⟨hside, hanchor⟩, hrest⟩ := hnamed
      have hfirst := h.ensureClassExists hattached hattached' hsides hside hanchor
      refine hfirst.bind fun found found' hfound => ?_
      refine (ih hrest).bind fun others others' hothers => matched_pure ?_
      cases hfound with
      | none => exact hothers
      | some ht => exact .cons ⟨rfl, ht, hanchor⟩ hothers

end Proxies

theorem ensureProxyClasses {d d' : DeclId} (hd : D d d')
    (hown : FindMatched ρ N cx cx' .sidedProxy d d') :
    Check.Matched ρ N Eq (cx.ensureProxyClasses d) (cx'.ensureProxyClasses d') := by
  unfold Context.ensureProxyClasses
  refine (h.tagAttachment hd hown).bind fun a a' ha => ?_
  obtain ⟨attached, attached', hattached, hattached', hmatched, hanchors⟩ := ha
  have hsides := hmatched.sides rfl
  have hnamed : ∀ side ∈ Context.namedSides attached,
      side ∈ proxySides ∧ N (.value d a side) (.value d' a' side) :=
    fun side hside => ⟨List.mem_of_mem_filter hside, hanchors rfl side hside⟩
  have hresolve := h.resolveSides hattached hattached' hsides _ hnamed
  refine .ask_ok hattached hattached' ?_
  rw [h.namedSides hsides]
  refine hresolve.bind fun xs ys hresolved => ?_
  have hfit := Check.Matched.forM hresolved fun x y hxy => h.ensureAssignable hd hxy.2.1
  refine hfit.bind fun _ _ _ => Check.Matched.forM hresolved fun x y hxy => ?_
  obtain ⟨side, t⟩ := x
  obtain ⟨side', t'⟩ := y
  obtain ⟨hside, ht, hanchor⟩ := hxy
  dsimp only at ht hanchor ⊢
  rcases rel_cases (h.program.introducing? ht) with
    ⟨hnone, hnone'⟩ | ⟨proxy, proxy', hsome, hsome', hproxy⟩
  · rw [hnone, hnone']
    exact matched_pure rfl
  · rw [hsome, hsome']
    exact h.ensureConstructor hproxy .nil (.some hanchor)

end Context.Matched

/-! ## Requirements -/

namespace Requirement

/-- The tag that a requirement looks for on other declarations. -/
def sought? : Requirement → Option Tag
  | .ownerCarries tag | .elementCount tag _ _ => some tag
  | _ => none

/-- The tag whose attachment a requirement looks into. -/
def reads? : Requirement → Option Tag
  | .instanceType => some .modInstance
  | .proxyClasses => some .sidedProxy
  | _ => none

end Requirement

/-- Contracts look for no other tags, and look into the attachment of their own tag only. -/
theorem Tag.tags_of_mem_contract {tag : Tag} {r : Requirement} (hr : r ∈ tag.contract) :
    (∀ other ∈ r.sought?, other ∈ Tag.sought) ∧ ∀ other ∈ r.reads?, other = tag := by
  revert r
  cases tag <;> decide

namespace Context.Matched

variable {cx cx' : Context} {d d' : DeclId} (h : cx.Matched ρ T D N cx') (hd : D d d')
include h hd

/-- A requirement is checked alike if it looks for those tags only that both contexts agree on. -/
theorem checkRequirement {r : Requirement} (hsought : ∀ tag ∈ r.sought?, tag ∈ Tag.sought)
    (hown : ∀ tag ∈ r.reads?, FindMatched ρ N cx cx' tag d d') :
    Check.Matched ρ N Eq (cx.checkRequirement d r) (cx'.checkRequirement d' r) := by
  cases r with
  | modifier m required => exact h.ensureModifier hd m required
  | staticIfNested =>
      refine .ask_bind (h.program.enclosingOf hd) fun enclosing? enclosing'? henclosing => ?_
      cases henclosing with
      | none => exact matched_pure rfl
      | some => exact h.ensureModifier hd .isStatic true
  | plainConstructor => exact h.ensureConstructor hd .nil .none
  | ownerCarries tag => exact h.ensureOwnerCarries (hsought tag rfl) hd
  | parameters types =>
      refine h.ensureParameters hd ?_
      rw [List.forall₂_map_left_iff, List.forall₂_map_right_iff, List.forall₂_same]
      exact fun t _ => h.designated t
  | returns type => exact h.ensureReturn hd (h.designated type)
  | returnsOwner =>
      refine .ask_bind (h.program.ownerOf hd) fun owner owner' howner => ?_
      exact .ask_bind (h.program.typeOf howner) fun _ _ ht => h.ensureReturn hd ht
  | elementCount tag low high => exact h.ensureElementCount (hsought tag rfl) hd low high
  | holds type => exact h.ensureAssignable hd (h.designated type)
  | instanceOf type => exact h.ensureInstanceOf hd (h.designated type)
  | instanceType => exact h.ensureInstanceType hd (hown .modInstance rfl)
  | proxyClasses => exact h.ensureProxyClasses hd (hown .sidedProxy rfl)

/-- A pair is checked alike: all requirements of the tag, or none if the tag is misplaced. Of the
attachments on the declaration only the first one of the tag counts. -/
theorem check {tag : Tag} (hown : FindMatched ρ N cx cx' tag d d') :
    Check.Matched ρ N Eq (cx.check tag d) (cx'.check tag d') := by
  refine .ask_bind (h.program.declaration hd) fun decl decl' hdecl => ?_
  rw [hdecl.kind]
  split
  · refine Check.Matched.forM_same fun r hr => ?_
    obtain ⟨hsought, hreads⟩ := Tag.tags_of_mem_contract hr
    exact h.checkRequirement hd hsought fun other hother => hreads other hother ▸ hown
  · exact matched_throw (hdecl.name.map (CheckFault.unexpectedTarget tag decl.kind))

end Context.Matched

end ModContracts
