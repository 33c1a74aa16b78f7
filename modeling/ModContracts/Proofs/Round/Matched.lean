import ModContracts.Proofs.Contract.Matched

/-!
# Rounds side by side

Rounds over two programs that match go the same way if they take corresponding pairs, and listings of
corresponding pairs say the same.

* `Context.PairMatched` — pairs of the same tag and corresponding declarations;
* `Context.Matched.pairs`, `Context.Matched.validate` — rounds over them;
* `Context.Matched.listings` — listings of them.
-/

namespace ModContracts

variable {ρ : String → String} {T : TypeId → TypeId → Prop} {D : DeclId → DeclId → Prop}
  {N : Anchor → Anchor → Prop}

open Check

namespace Context

/-- Pairs of one tag and of corresponding declarations, on which the first attachments of the tag hold
the same. -/
structure PairMatched (ρ : String → String) (D : DeclId → DeclId → Prop) (N : Anchor → Anchor → Prop)
    (cx cx' : Context) (pair pair' : Tag × DeclId) : Prop where
  tag : pair'.1 = pair.1
  declaration : D pair.2 pair'.2
  own : FindMatched ρ N cx cx' pair.1 pair.2 pair'.2

namespace Matched

variable {cx cx' : Context} {xs ys : List (Tag × DeclId)} (h : cx.Matched ρ T D N cx')
include h

/-! ## Rounds -/

/-- Corresponding pairs are checked alike, up to the first fault. -/
theorem pairs (hpairs : List.Forall₂ (PairMatched ρ D N cx cx') xs ys) :
    Check.Matched ρ N Eq (xs.forM fun pair => cx.check pair.1 pair.2)
      (ys.forM fun pair => cx'.check pair.1 pair.2) := by
  refine .forM hpairs ?_
  rintro ⟨tag, d⟩ ⟨tag', d'⟩ ⟨htag, hd, hown⟩
  obtain rfl : tag' = tag := htag
  exact h.check hd hown

theorem validate (hpairs : List.Forall₂ (PairMatched ρ D N cx cx') cx.pairs cx'.pairs)
    (hsummary : cx'.summary = cx.summary) : Check.Matched ρ N Eq cx.validate cx'.validate := by
  unfold Context.validate
  rw [hsummary]
  exact (h.pairs hpairs).bind fun _ _ _ => matched_pure rfl

/-! ## Listings -/

theorem listing {d d' : DeclId} (hd : D d d') (tag : Tag) :
    ResultsAlike ρ (AgreeUnder ρ) (cx.listing tag d) (cx'.listing tag d') := by
  refine (h.program.declaration hd).bind fun decl decl' hdecl => ?_
  rw [hdecl.kind, hdecl.modifiers]
  have hlisting {name name' : String} (hname : AgreeUnder ρ name name') :
      ResultsAlike ρ (AgreeUnder ρ)
        (pure { tag, kind := decl.kind, name, modifiers := decl.modifiers } : Answer Listing)
        (pure { tag, kind := decl.kind, name := name', modifiers := decl.modifiers }) :=
    .ok (hname.map fun name =>
      ({ tag, kind := decl.kind, name, modifiers := decl.modifiers } : Listing))
  dsimp only
  split
  · refine (h.program.typeOf hd).bind fun _ _ ht => ?_
    exact (h.program.typeName ht).bind fun _ _ hname => hlisting hname
  · exact hlisting hdecl.name

theorem listings (hpairs : List.Forall₂ (PairMatched ρ D N cx cx') cx.pairs cx'.pairs) :
    ResultsAlike ρ (AgreeUnder ρ) cx.listings cx'.listings := by
  have hlistings : ResultsAlike ρ (List.Forall₂ (AgreeUnder ρ))
      (cx.pairs.mapM fun pair => cx.listing pair.1 pair.2)
      (cx'.pairs.mapM fun pair => cx'.listing pair.1 pair.2) := by
    refine ResultsAlike.mapM hpairs ?_
    rintro ⟨tag, d⟩ ⟨tag', d'⟩ ⟨htag, hd, -⟩
    obtain rfl : tag' = tag := htag
    exact h.listing hd tag'
  exact hlistings.mono fun _ _ hsame => .of_forall₂ hsame

end Matched

end Context

end ModContracts
