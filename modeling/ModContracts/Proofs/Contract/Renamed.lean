import ModContracts.Proofs.Contract.Matched
import ModContracts.Proofs.Program.Renamed

/-!
# Checks of renamed programs

Checks that run on a program and on a renamed one match: they report the same violations in the same
places, up to texts that name types.

* `Context.Renamed` — a program and a renamed one with the types of their frameworks;
* `Context.Renamed.matched`, `Context.Renamed.findMatched` — they match, with all tags.
-/

namespace ModContracts

namespace Context

/-- A program and a renamed one, with frameworks of the renamed names. -/
structure Renamed (ρ : String → String) (cx cx' : Context) : Prop where
  program : cx.program.Renamed ρ cx.framework.profile cx'.program
  tagType : ∀ tag, Option.Rel (Program.Counterpart ρ cx.program cx'.program)
    (cx.framework.tagType? tag) (cx'.framework.tagType? tag)
  proxyType : ∀ {t : TypeId}, cx.framework.tagType? .sidedProxy = some t →
    cx.program.IsProxyType cx.framework.profile t
  designated : ∀ t : Designated, Program.Counterpart ρ cx.program cx'.program
    (cx.framework.typeOf t) (cx'.framework.typeOf t)
  annotationName : ∀ tag : Tag, tag.annotationName cx'.framework.profile =
    ρ (tag.annotationName cx.framework.profile)

namespace Renamed

variable {ρ : String → String} {cx cx' : Context} (hρ : TypeRenaming ρ) (h : cx.Renamed ρ cx')
include hρ h

/-- The first attachments of a tag on one declaration hold the same. -/
theorem findMatched (tag : Tag) (d : DeclId) : FindMatched ρ Eq cx cx' tag d d := by
  unfold FindMatched findTag
  rcases rel_cases (h.tagType tag) with ⟨hnone, hnone'⟩ | ⟨t, t', hsome, hsome', ht⟩
  · rw [hnone, hnone']
    exact .ok .none
  · rw [hsome, hsome']
    refine (h.program.findAttachment_rel hρ.injective ht d).mono fun found? found'? hfound => ?_
    cases hfound with
    | none => exact .none
    | some hfound =>
        obtain ⟨rfl, attached, attached', hattached, hattached', rfl, halike⟩ := hfound
        refine .some ⟨attached, attached', hattached, hattached', ⟨fun _ => halike.value, ?_⟩, ?_⟩
        · rintro rfl
          exact halike.sides (h.proxyType hsome)
        · exact fun _ _ _ => rfl

/-- A program and a renamed one match, declaration by declaration and place by place. -/
theorem matched : cx.Matched ρ (Program.Counterpart ρ cx.program cx'.program) Eq Eq cx' where
  program := h.program.matched hρ
  designated := h.designated
  annotationName := h.annotationName
  carries tag _ d d' hd := by
    subst hd
    exact (h.findMatched hρ tag d).carries
  anchor hd _ := congrArg Anchor.declaration hd

end Renamed

end Context

end ModContracts
