import ModContracts.Diagnostic
import ModContracts.Proofs.Snapshot.Contents
import Mathlib.Data.List.Induction

/-!
# Where diagnostics are located

The place of an anchor in a loaded program is the most precise one that its snapshot writes: a value has
the place written under its name, else that of its annotation, and an annotation its own, else that of
its declaration. Nothing in between is skipped and nothing is taken from another declaration.

* `LastUnder`, `Keyed.find?_ofList_eq_some_iff` — what pairs say of a key when later ones replace earlier
  ones;
* `AttachmentSpec.Located` — the places of an annotation and of what stands under names in it;
* `Snapshot.Located` — the places of all anchors; `Snapshot.located_of_load` — so it is in every loaded
  program.
-/

namespace ModContracts

/-! ## Pairs that replace each other -/

section LastUnder

variable {κ α : Type} {key k : κ} {value v : α} {pairs : List (κ × α)}

/-- The last pair of a key among some pairs. -/
def LastUnder (pairs : List (κ × α)) (key : κ) (value : α) : Prop :=
  ∃ before after, pairs = before ++ (key, value) :: after ∧ key ∉ after.map Prod.fst

theorem lastUnder_concat_iff :
    LastUnder (pairs ++ [(k, v)]) key value ↔
      (k = key ∧ v = value) ∨ (k ≠ key ∧ LastUnder pairs key value) := by
  constructor
  · rintro ⟨before, after, heq, hlast⟩
    -- the pair that is meant is the last of all, or comes before it
    cases after using List.reverseRecOn with
    | nil =>
        obtain ⟨-, hpair⟩ := List.append_inj' heq rfl
        exact .inl (by simpa using hpair)
    | append_singleton front pair =>
        rw [← List.cons_append, ← List.append_assoc] at heq
        obtain ⟨rfl, hpair⟩ := List.append_inj' heq rfl
        obtain rfl : (k, v) = pair := List.singleton_inj.1 hpair
        rw [List.map_append, List.mem_append, not_or] at hlast
        exact .inr ⟨fun hk => hlast.2 (by simp [hk]), before, front, rfl, hlast.1⟩
  · rintro (⟨rfl, rfl⟩ | ⟨hne, before, after, rfl, hlast⟩)
    · exact ⟨pairs, [], rfl, by simp⟩
    · refine ⟨before, after ++ [(k, v)], by simp, ?_⟩
      rw [List.map_append, List.mem_append, not_or]
      exact ⟨hlast, by simpa using Ne.symm hne⟩

end LastUnder

namespace Keyed

variable {κ α : Type} [DecidableEq κ] {key : κ} {value : α} {pairs : List (κ × α)}

theorem ofList_concat (pairs : List (κ × α)) (key : κ) (value : α) :
    ofList (pairs ++ [(key, value)]) = put (ofList pairs) key value := by
  simp [ofList, putAll]

/-- What is found under a key is the value of its last pair. -/
theorem find?_ofList_eq_some_iff : find? (ofList pairs) key = some value ↔ LastUnder pairs key value := by
  induction pairs using List.reverseRecOn with
  | nil => simp [ofList, putAll, find?, LastUnder]
  | append_singleton rest pair ih =>
      obtain ⟨k, v⟩ := pair
      rw [ofList_concat, find?_put, lastUnder_concat_iff]
      by_cases h : k = key <;> simp [h, ih]

theorem find?_ofList_eq_none_iff : find? (ofList pairs) key = none ↔ key ∉ pairs.map Prod.fst := by
  induction pairs using List.reverseRecOn with
  | nil => simp [ofList, putAll, find?]
  | append_singleton rest pair ih =>
      obtain ⟨k, v⟩ := pair
      rw [ofList_concat, find?_put]
      by_cases h : k = key
      · simp [h]
      · simp [h, ih, Ne.symm h]

end Keyed

/-! ## Places in any program -/

section Locate

variable {p : Program} {d : DeclId} {a : AttachmentId} {attached : Attachment}

theorem locate_declaration (p : Program) (d : DeclId) :
    locate p (.declaration d) = p.locationOf? d := rfl

theorem locate_attachment (h : p.attachments[a]? = some attached) (d : DeclId) :
    locate p (.attachment d a) = attached.location?.or (p.locationOf? d) := by
  simp only [locate, Anchor.attachmentId?, Anchor.valueName?, Anchor.declId, Option.bind_some, h]

theorem locate_value (h : p.attachments[a]? = some attached) (d : DeclId) (name : String) :
    locate p (.value d a name) =
      ((attached.valueLocations.find? name).or attached.location?).or (p.locationOf? d) := by
  simp only [locate, Anchor.attachmentId?, Anchor.valueName?, Anchor.declId, Option.bind_some, h,
    Attachment.valueLocation?]

/-- What is pinned to an attachment that is not there is located at its declaration. -/
theorem locate_of_unknown (h : p.attachments[a]? = none) (d : DeclId) (name : String) :
    locate p (.attachment d a) = locate p (.declaration d) ∧
      locate p (.value d a name) = locate p (.declaration d) := by
  simp only [locate, Anchor.attachmentId?, Anchor.valueName?, Anchor.declId, Option.bind_some,
    Option.bind_none, h, and_self]

end Locate

/-! ## Places in loaded programs -/

/-- Where the annotation `spec`, which became the attachment `a`, and the names in it are located. It
is written on the declaration `d`, for which the place `around` is written, if any. -/
structure AttachmentSpec.Located (p : Program) (d : DeclId) (around : Option Location)
    (a : AttachmentId) (spec : AttachmentSpec) : Prop where
  whole : locate p (.attachment d a) = spec.location?.or around
  whole_none : locate p (.attachment d a) = none ↔ spec.location? = none ∧ around = none
  /-- The place written for a name counts whether or not a value stands under it. -/
  placed : ∀ name place, LastUnder spec.valueLocations name place →
    locate p (.value d a name) = some place
  unplaced : ∀ name, name ∉ spec.valueLocations.map Prod.fst →
    locate p (.value d a name) = spec.location?.or around
  value_none : ∀ name, locate p (.value d a name) = none ↔
    name ∉ spec.valueLocations.map Prod.fst ∧ spec.location? = none ∧ around = none

/-- An attachment is located where its annotation is written. -/
theorem AttachmentSpec.Means.located {p : Program} {ids : TypeIds} {d : DeclId}
    {a : AttachmentId} {spec : AttachmentSpec} {attached : Attachment} (h : spec.Means ids d attached)
    (ha : p.attachments[a]? = some attached) : spec.Located p d (p.locationOf? d) a := by
  have hwhole := locate_attachment ha d
  rw [h.location] at hwhole
  have hvalue := locate_value ha d
  rw [h.location, h.valueLocations] at hvalue
  exact {
    whole := hwhole
    whole_none := by rw [hwhole, Option.or_eq_none_iff]
    placed := fun name place hplace => by
      rw [hvalue, Keyed.find?_ofList_eq_some_iff.2 hplace, Option.some_or, Option.some_or]
    unplaced := fun name hname => by
      rw [hvalue, Keyed.find?_ofList_eq_none_iff.2 hname, Option.none_or]
    value_none := fun name => by
      rw [hvalue, Option.or_eq_none_iff, Option.or_eq_none_iff, Keyed.find?_ofList_eq_none_iff,
        and_assoc] }

namespace Snapshot

/-- Every anchor is located at the most precise place that the snapshot writes for it. -/
structure Located (s : Snapshot) (p : Program) : Prop where
  declaration : ∀ (d : Nat) (n : Node), s.nodes[d]? = some n →
    locate p (.declaration d) = n.spec.location?
  /-- The attachments of a declaration are the annotations on its node, one after the other. -/
  attachments : ∀ (d : Nat) (n : Node), s.nodes[d]? = some n →
    ∃ ids, p.attachmentsOf d = .ok ids ∧
      List.Forall₂ (AttachmentSpec.Located p d n.spec.location?) ids n.spec.attachments
  /-- An id beyond all annotations of the snapshot is that of no attachment, and what is pinned to it is
  located at its declaration. -/
  beyond : ∀ a, (annotations s.nodes).length ≤ a → ∀ d name,
    locate p (.attachment d a) = locate p (.declaration d) ∧
      locate p (.value d a name) = locate p (.declaration d)

/-- In a loaded program every anchor is located where the snapshot says. -/
theorem located_of_load {s : Snapshot} {p : Program} (h : s.load = .ok p) : s.Located p := by
  obtain ⟨-, hholds⟩ := holds_of_load h
  have hlocation {d : Nat} {n : Node} (hn : s.nodes[d]? = some n) :
      p.locationOf? d = n.spec.location? := by
    obtain ⟨decl, hdecl, hbecomes⟩ := hholds.declaration d n hn
    rw [Program.locationOf?_eq hdecl, hbecomes.location]
  refine ⟨fun d n hn => hlocation hn, fun d n hn => ?_, fun a ha => ?_⟩
  · obtain ⟨decl, hdecl, hbecomes⟩ := hholds.declaration d n hn
    refine ⟨decl.attachments, Program.attachmentsOf_eq hdecl, ?_⟩
    rw [hbecomes.attachments, ← hlocation hn]
    exact (attachments_at hholds.attachments hn).imp fun a spec ⟨attached, ha, hmeans⟩ =>
      hmeans.located ha
  · rw [hholds.attachments.length_eq] at ha
    exact locate_of_unknown (List.getElem?_eq_none_iff.2 ha)

/-- A class without a place and a field with one. Of the annotations on the field the first has a place
and places for a value and for a name under which nothing stands, and the second has none. -/
def placesExample : Snapshot where
  types := [{ name := "a.Mark" }]
  declarations := [{
    kind := .classType, name := "b.Example"
    attachments := [{ type := "a.Mark", valueLocations := [("value", ⟨"B.java", 0, 5⟩)] }]
    members := [{
      kind := .field, name := "held", type? := some "b.Example", location? := some ⟨"B.java", 40, 60⟩
      attachments := [
        { type := "a.Mark", values := [("client", .str "b.Client")]
          location? := some ⟨"B.java", 20, 38⟩
          valueLocations := [("client", ⟨"B.java", 25, 35⟩), ("server", ⟨"B.java", 90, 10⟩)] },
        { type := "a.Mark" }] }] }]

theorem exists_located_placesExample :
    ∃ p, placesExample.load = .ok p ∧ placesExample.Located p ∧
      locate p (.value 0 0 "value") = some ⟨"B.java", 0, 5⟩ ∧ locate p (.attachment 0 0) = none ∧
      locate p (.value 1 1 "server") = some ⟨"B.java", 90, 10⟩ ∧
      locate p (.value 1 1 "other") = some ⟨"B.java", 20, 38⟩ ∧
      locate p (.value 1 2 "client") = some ⟨"B.java", 40, 60⟩ ∧
      locate p (.attachment 1 3) = some ⟨"B.java", 40, 60⟩ := by
  have hrun : (placesExample.load.toOption.any fun p =>
      locate p (.value 0 0 "value") = some ⟨"B.java", 0, 5⟩ && locate p (.attachment 0 0) = none &&
        locate p (.value 1 1 "server") = some ⟨"B.java", 90, 10⟩ &&
        locate p (.value 1 1 "other") = some ⟨"B.java", 20, 38⟩ &&
        locate p (.value 1 2 "client") = some ⟨"B.java", 40, 60⟩ &&
        locate p (.attachment 1 3) = some ⟨"B.java", 40, 60⟩) = true := by
    decide +kernel
  obtain ⟨p, hload, hfacts⟩ := (Option.any_eq_true _ _).1 hrun
  simp only [Bool.and_eq_true, decide_eq_true_eq, toOption_eq_some_iff] at hload hfacts
  obtain ⟨⟨⟨⟨⟨hvalue, hnone⟩, hserver⟩, hother⟩, hclient⟩, hbeyond⟩ := hfacts
  exact ⟨p, hload, located_of_load hload, hvalue, hnone, hserver, hother, hclient, hbeyond⟩

end Snapshot

end ModContracts
