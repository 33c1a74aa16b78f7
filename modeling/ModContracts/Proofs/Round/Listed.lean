import ModContracts.Proofs.Round.Faults
import ModContracts.Proofs.Round.Pairs
import Mathlib.Data.List.Dedup

/-!
# Listings and rounds

A listing shows what a round looks at. Whatever the round does, the listing of a loaded program has one
line for each pair of the round, in the same order, and says of the declaration what its node writes. If
the round goes through, it counts as many declarations as there are lines, and as many tags.

* `Context.tally`, `Context.validate_eq_tally` — a round that counts as it goes;
* `Context.summary_tags_eq` — the tags that are counted are those of the pairs;
* `Snapshot.Node.Listed` — a line that says what a node writes;
* `Snapshot.inspect_of_load` — the listing of a loaded program, beside a round over it.
-/

namespace ModContracts

/-! ## What a round counts -/

namespace Context

variable (cx : Context)

/-- A round that counts as it goes: tag by tag, past those that no declaration carries. -/
def tally : List Tag → RoundSummary → Check RoundSummary
  | [], counted => return counted
  | tag :: rest, counted =>
    if (cx.tagged tag).isEmpty then tally rest counted
    else do
      (cx.tagged tag).forM fun d => cx.check tag d
      tally rest
        { tags := counted.tags + 1, checked := counted.checked + (cx.tagged tag).length }

/-- What is left of a round after some tags: the pairs of the others, and what they add to the count. -/
theorem tally_eq (tags : List Tag) (counted : RoundSummary) :
    cx.tally tags counted = (do
      (tags.flatMap cx.pairsOf).forM fun pair => cx.check pair.1 pair.2
      return {
        tags := counted.tags + tags.countP fun tag => ! (cx.tagged tag).isEmpty
        checked := counted.checked + (tags.flatMap cx.pairsOf).length }) := by
  induction tags generalizing counted with
  | nil => rfl
  | cons tag rest ih =>
      have hfirst : forM (cx.pairsOf tag) (fun pair => cx.check pair.1 pair.2) =
          forM (cx.tagged tag) fun d => cx.check tag d := by
        rw [pairsOf, List.forM_map]
      simp only [List.forM_eq_forM] at ih ⊢
      rw [tally, List.flatMap_cons, List.forM_append, List.countP_cons, List.length_append, hfirst,
        bind_assoc, List.forM_eq_forM]
      split
      case isTrue hempty =>
          have hnone := List.isEmpty_iff.1 hempty
          rw [ih, hnone, pairsOf, hnone]
          simp
      case isFalse hsome =>
          simp only [ih, hsome, pairsOf, List.length_map, Bool.not_false, if_true, Nat.add_assoc,
            Nat.add_comm 1]

/-- The summary of a round is what it counts as it goes. -/
theorem validate_eq_tally : cx.validate = cx.tally Tag.all { tags := 0, checked := 0 } := by
  rw [tally_eq]
  simp only [Nat.zero_add]
  rfl

/-- The tags that are counted are those of the pairs, each once. -/
theorem summary_tags_eq : cx.summary.tags = (cx.pairs.map Prod.fst).dedup.length := by
  have hperm : (Tag.all.filter fun tag => ! (cx.tagged tag).isEmpty).Perm
      (cx.pairs.map Prod.fst).dedup := by
    refine (List.perm_ext_iff_of_nodup (Tag.nodup_all.filter _) (List.nodup_dedup _)).2 fun tag => ?_
    rw [List.mem_filter, List.mem_dedup, List.mem_map, and_iff_right (Tag.mem_all tag)]
    constructor
    · intro h
      obtain ⟨d, hd⟩ := List.exists_mem_of_ne_nil (cx.tagged tag) (by simpa using h)
      exact ⟨(tag, d), mem_pairs_iff.2 hd, rfl⟩
    · intro h
      obtain ⟨⟨_, d⟩, hpair, rfl⟩ := h
      simpa using List.ne_nil_of_mem (mem_pairs_iff.1 hpair)
  rw [← hperm.length_eq, ← List.countP_eq_length_filter]
  rfl

end Context

/-! ## Listings of loaded programs -/

namespace Snapshot

/-- A line about the declaration with the number `d` says what the node `n` writes, as the program
answers it: a type goes by the name that is written, which is qualified, and a member by its own. -/
structure Node.Listed (p : Program) (n : Node) (tag : Tag) (d : DeclId) (l : Listing) : Prop where
  tag : l.tag = tag
  kind : p.kindOf d = .ok l.kind ∧ l.kind = n.spec.kind
  modifiers : p.modifiersOf d = .ok l.modifiers ∧
    ∀ m, l.modifiers.has m = true ↔ m ∈ n.spec.modifiers
  typeName : n.spec.kind.isType = true → l.name = n.spec.name ∧
    ∃ t, p.typeOf d = .ok t ∧ p.typeName t = .ok l.name
  memberName : n.spec.kind.isType = false → p.nameOf d = .ok l.name ∧
    l.name = if n.spec.kind = .constructor then "<init>" else n.spec.name

section Loaded

variable {s : Snapshot} {cx : Context} (h : s.load = .ok cx.program)
include h

/-- Whatever has a number among the nodes can be listed. -/
theorem exists_listing {n : Node} {d : Nat} (hn : s.nodes[d]? = some n) (tag : Tag) :
    ∃ l, cx.listing tag d = .ok l ∧ n.Listed cx.program tag d l := by
  obtain ⟨hindexed, hholds⟩ := holds_of_load h
  obtain ⟨decl, hdecl, hbecomes⟩ := hholds.declaration d n hn
  have hmodifiers (m : Modifier) : decl.modifiers.has m = true ↔ m ∈ n.spec.modifiers := by
    rw [hbecomes.modifiers, ModifierSet.has_ofList]
  unfold Context.listing
  rw [Program.declaration_eq hdecl]
  cases hkind : n.spec.kind.isType with
  | true =>
      obtain ⟨-, t, ht, htype⟩ := hbecomes.of_isType hkind
      have htypeOf := Program.typeOf_eq hdecl htype
      have hname := hindexed.typeName_of_typeId? ht
      refine ⟨{ tag, kind := decl.kind, name := n.spec.name, modifiers := decl.modifiers }, ?_, rfl,
        ⟨Program.kindOf_eq hdecl, hbecomes.kind⟩, ⟨Program.modifiersOf_eq hdecl, hmodifiers⟩,
        fun _ => ⟨rfl, t, htypeOf, hname⟩, by simp [hkind]⟩
      simp only [bind, Except.bind, hbecomes.kind, hkind, if_true, htypeOf, hname]
      rfl
  | false =>
      refine ⟨{ tag, kind := decl.kind, name := decl.name, modifiers := decl.modifiers }, ?_, rfl,
        ⟨Program.kindOf_eq hdecl, hbecomes.kind⟩, ⟨Program.modifiersOf_eq hdecl, hmodifiers⟩,
        by simp [hkind], fun _ => ⟨Program.nameOf_eq hdecl, ?_⟩⟩
      · simp only [bind, Except.bind, hbecomes.kind, hkind]
        rfl
      · cases hk : n.spec.kind with
        | method => exact (hbecomes.of_method hk).1
        | constructor => exact (hbecomes.of_constructor hk).1
        | field => exact (hbecomes.of_field hk).1
        | _ => simp [hk, Kind.isType] at hkind

/-- The pairs of a round over a loaded program can be listed one by one. -/
theorem exists_listings (hcx : cx.Resolved) :
    ∃ listings, cx.listings = .ok listings ∧
      List.Forall₂ (fun pair l => ∃ n, s.nodes[pair.2]? = some n ∧
        n.Listed cx.program pair.1 pair.2 l) cx.pairs listings := by
  have hwf := wellFormed_of_load h
  obtain ⟨-, hholds⟩ := holds_of_load h
  have hlisted : ∀ pair ∈ cx.pairs, ∃ l, cx.listing pair.1 pair.2 = .ok l ∧
      ∃ n, s.nodes[pair.2]? = some n ∧ n.Listed cx.program pair.1 pair.2 l := by
    intro ⟨tag, d⟩ hmem
    rw [Context.pairs_eq hwf hcx, Program.mem_placements_iff] at hmem
    obtain ⟨decl, hdecl⟩ := hmem.exists_declaration
    have hlt : d < s.nodes.length :=
      hholds.length_declarations ▸ (List.getElem?_eq_some_iff.1 hdecl).1
    have hn := List.getElem?_eq_getElem hlt
    obtain ⟨l, hl, hsays⟩ := exists_listing h hn tag
    exact ⟨l, hl, _, hn, hsays⟩
  obtain ⟨listings, hlistings⟩ := exists_forall₂_iff.2 hlisted
  exact ⟨listings, mapM_eq_ok_iff.2 (hlistings.imp fun _ _ hl => hl.1),
    hlistings.imp fun _ _ hl => hl.2⟩

end Loaded

/-- A loaded program that knows the designated types can always be listed, whether a round over it
faults or not. The pairs of the round are all declarations with the tags that they carry. The listing
has a line for each pair, in the order of the round, which says what is written of the declaration. If
the round goes through, it counts the lines, and the tags on them. -/
theorem inspect_of_load {s : Snapshot} {p : Program} {profile : Profile} (h : s.load = .ok p)
    (hdesignated : ∀ t : Designated, ∃ id, p.typeId? (t.typeName profile) = some id) :
    ∃ cx listings, Context.ofProgram p profile = .ok cx ∧ inspect p profile = .ok listings ∧
      cx.pairs = p.placements profile ∧
      List.Forall₂ (fun pair l => ∃ n, s.nodes[pair.2]? = some n ∧ n.Listed p pair.1 pair.2 l)
        cx.pairs listings ∧
      ∀ prior summary, (cx.validate.after prior).1 = .ok summary →
        listings.length = summary.checked ∧
          (listings.map Listing.tag).dedup.length = summary.tags := by
  obtain ⟨cx, hcx⟩ := Context.exists_ofProgram_iff.2 hdesignated
  obtain ⟨rfl, rfl, hresolved⟩ := Context.ofProgram_eq_ok_iff.1 hcx
  obtain ⟨listings, hlistings, hlisted⟩ := exists_listings h hresolved
  have hinspect : inspect cx.program cx.framework.profile = .ok listings := by
    unfold inspect
    rw [hcx]
    exact congrArg (Except.mapError CheckFault.program) hlistings
  have hwf := wellFormed_of_load h
  refine ⟨cx, listings, hcx, hinspect, Context.pairs_eq hwf hresolved, hlisted,
    fun prior summary hok => ?_⟩
  obtain ⟨-, rfl, -⟩ := (Context.validate_eq_ok_iff hwf hresolved).1
    (Prod.ext hok rfl : _ = (_, (cx.validate.after prior).2))
  have htags : cx.pairs.map Prod.fst = listings.map Listing.tag := by
    rw [← List.forall₂_eq_eq_eq, List.forall₂_map_left_iff, List.forall₂_map_right_iff]
    exact hlisted.imp fun _ _ ⟨_, _, hl⟩ => hl.tag.symm
  rw [cx.summary_tags_eq, htags]
  exact ⟨hlisted.length_eq.symm, rfl⟩

/-- A class in a class, a method, and a constructor under a tag that is for fields. -/
def listedExample : Snapshot where
  types := frameworkTypes .default
  declarations := [{
    kind := .classType, name := "a.Outer", modifiers := [.isPublic]
    attachments := [{ type := Tag.mod.annotationName .default }]
    members := [
      { kind := .constructor, name := "<init>", modifiers := [.isPublic]
        attachments := [{ type := Tag.metadata.annotationName .default }] },
      { kind := .classType, name := "a.Outer.Inner", modifiers := [.isStatic]
        attachments := [{ type := Tag.mod.annotationName .default }] },
      { kind := .method, name := "run"
        attachments := [{ type := Tag.eventHandler.annotationName .default }] }] }]

/-- The round faults at the constructor, which is listed with the others. -/
theorem exists_inspect_listedExample :
    ∃ p cx listings, listedExample.load = .ok p ∧ Context.ofProgram p .default = .ok cx ∧
      (cx.validate.after []).1 = .error (.unexpectedTarget .metadata .constructor "<init>") ∧
      inspect p .default = .ok listings ∧
      listings.map (fun l => (l.tag, l.kind, l.name)) =
        [(.mod, .classType, "a.Outer"), (.mod, .classType, "a.Outer.Inner"),
          (.eventHandler, .method, "run"), (.metadata, .constructor, "<init>")] ∧
      List.Forall₂ (fun pair l => ∃ n, listedExample.nodes[pair.2]? = some n ∧
        n.Listed p pair.1 pair.2 l) cx.pairs listings := by
  have hrun : (listedExample.load.toOption.any fun p =>
      (Designated.all.all fun t => (p.typeId? (t.typeName .default)).isSome) &&
        ((round p .default).toOption.any fun r =>
          r.1 = .error (.unexpectedTarget .metadata .constructor "<init>")) &&
        ((inspect p .default).toOption.any fun listings =>
          listings.map (fun l => (l.tag, l.kind, l.name)) =
            [(.mod, .classType, "a.Outer"), (.mod, .classType, "a.Outer.Inner"),
              (.eventHandler, .method, "run"), (.metadata, .constructor, "<init>")])) = true := by
    decide +kernel
  obtain ⟨p, hp, hfacts⟩ := (Option.any_eq_true _ _).1 hrun
  have hload := toOption_eq_some_iff.1 hp
  simp only [Bool.and_eq_true, List.all_eq_true, Option.isSome_iff_exists] at hfacts
  obtain ⟨⟨hdesignated, hround⟩, hlines⟩ := hfacts
  obtain ⟨r, hr, hfault⟩ := (Option.any_eq_true _ _).1 hround
  obtain ⟨listings', hl, hlines⟩ := (Option.any_eq_true _ _).1 hlines
  obtain ⟨cx, listings, hcx, hinspect, -, hlisted, -⟩ :=
    inspect_of_load hload fun t => hdesignated t (by cases t <;> decide)
  obtain ⟨cx', hcx', rfl⟩ := map_eq_ok_iff.1 (toOption_eq_some_iff.1 hr)
  obtain rfl : cx = cx' := Except.ok.inj (hcx.symm.trans hcx')
  obtain rfl : listings = listings' :=
    Except.ok.inj (hinspect.symm.trans (toOption_eq_some_iff.1 hl))
  simp only [decide_eq_true_eq] at hfault hlines
  exact ⟨p, cx, listings, hload, hcx, hfault, hinspect, hlines, hlisted⟩

end Snapshot

end ModContracts
