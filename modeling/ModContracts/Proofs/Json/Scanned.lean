import ModContracts.Json.Node
import ModContracts.Proofs.Json.Strings
import ModContracts.Proofs.Json.Numerals
import ModContracts.Proofs.Results

/-!
# Texts are scanned into the trees that the grammar means

* `Node.Holds` — a tree without flaw that holds a datum;
* `Node.Scans`, `Node.scans` — with fuel for a text, scanning finds a tree that holds what the text spells;
* `Node.exists_ofText` — the tree of a whole text;
* `Node.Holds.check` — a tree that holds a datum has no flaw, as long as there is room for the nesting.
-/

namespace ModContracts.Json

/-! ## Blanks -/

section Blanks

variable {c : Char} {s t : List Char}

theorem isBlank_iff : Node.isBlank c = true ↔ c ∈ [' ', '\t', '\n', '\r'] := by
  simp [Node.isBlank, or_assoc]

theorem skipBlanks_cons (h : Node.isBlank c = false) : Node.skipBlanks (c :: s) = c :: s := by
  simp [Node.skipBlanks, h]

theorem Blanks.skipBlanks_eq (h : Blanks s t) : Node.skipBlanks s = Node.skipBlanks t := by
  induction h with
  | nil => rfl
  | cons hc _ ih =>
    rw [← ih, Node.skipBlanks, List.dropWhile_cons_of_pos (isBlank_iff.2 hc)]
    rfl

theorem Blanks.length_le (h : Blanks s t) : t.length ≤ s.length := by
  induction h with
  | nil => exact Nat.le_refl _
  | cons _ _ ih => exact Nat.le_succ_of_le ih

/-- No number goes on into a blank, nor into what may follow blanks after it. -/
theorem Blanks.stopsNumber (h : Blanks s t) (ht : StopsNumber t) : StopsNumber s := by
  cases h with
  | nil => exact ht
  | cons hc _ =>
    have hall : ∀ c ∈ [' ', '\t', '\n', '\r'], digit? c = none ∧ c ≠ '.' ∧ c ≠ 'e' ∧ c ≠ 'E' := by
      simp [digit?]
    intro c' hc'
    obtain rfl : _ = c' := by simpa using hc'
    exact hall _ hc

end Blanks

/-! ## Trees that hold data -/

namespace Node

/-- The tree has no flaw and holds the datum. -/
inductive Holds : Node → Datum → Prop where
  | null : Holds .null .null
  | bool {b} : Holds (.bool b) (.bool b)
  | unsigned {numeral n} (hread : numeral.read = .ok (.natural n)) :
      Holds (.num numeral) (.unsigned n)
  | signed {numeral i} (hread : numeral.read = .ok (.ofInt64 i)) : Holds (.num numeral) (.signed i)
  | str {q text} (hread : q.read = .ok text) : Holds (.str q) (.str text)
  | arr {ns ds} (items : List.Forall₂ Holds ns ds) : Holds (.arr ns none) (.arr ds)
  | obj {ns ds} (keys : List.Forall₂ (fun (n : Quoted × Node) d => n.1.read = .ok d.1) ns ds)
      (values : List.Forall₂ Holds (ns.map Prod.snd) (ds.map Prod.snd)) :
      Holds (.obj ns none) (.obj ds)

/-- A member of a scanned object, and the member it holds. -/
def HoldsMember (n : Quoted × Node) (d : String × Datum) : Prop :=
  n.1.read = .ok d.1 ∧ n.2.Holds d.2

variable {ns : List (Quoted × Node)} {ds : List (String × Datum)}

theorem Holds.of_members (h : List.Forall₂ HoldsMember ns ds) : Holds (.obj ns none) (.obj ds) := by
  refine .obj (h.imp fun _ _ hm => hm.1) ?_
  rw [List.forall₂_map_left_iff, List.forall₂_map_right_iff]
  exact h.imp fun _ _ hm => hm.2

theorem Holds.members {n : Node} (h : n.Holds (.obj ds)) :
    ∃ ns, n = .obj ns none ∧ List.Forall₂ HoldsMember ns ds := by
  cases h with
  | @obj ns _ keys values =>
    refine ⟨ns, rfl, ?_⟩
    rw [List.forall₂_map_left_iff, List.forall₂_map_right_iff] at values
    induction keys with
    | nil => exact .nil
    | cons key _ ih =>
      cases values with
      | cons value rest => exact .cons ⟨key, value⟩ (ih rest)

/-! ## Scanning -/

section Leaves

variable {fuel : Nat} {c : Char} {s t : List Char}

theorem scan_blanks (h : Blanks s t) (fuel : Nat) : scan fuel s = scan fuel t := by
  cases fuel with
  | zero => simp [scan]
  | succ fuel => simp only [scan, h.skipBlanks_eq]

/-- A character that starts a number starts nothing else. -/
theorem scan_number {numeral : Numeral} (hc : StartsNumber c)
    (h : Numeral.scan (c :: s) = .ok (numeral, t)) :
    scan (fuel + 1) (c :: s) = (.num numeral, t) := by
  have hother := hc.not_mem
  have hblank : isBlank c = false := by
    simp_all [isBlank]
  have hnumber : (c = '-' || (digit? c).isSome) = true := by
    rcases hc with rfl | hc
    · rfl
    · simp [digit?_of_isDigit hc]
  rw [scan, skipBlanks_cons hblank]
  split
  case h_8 heq =>
    obtain ⟨rfl, rfl⟩ := List.cons.inj heq
    rw [if_pos hnumber, scanNumber, h]
  all_goals simp_all

end Leaves

/-- What begins a value is no blank and closes no list. -/
theorem exists_cons_of_value {d : Datum} {s t : List Char} (h : Value d s t) :
    ∃ c u, s = c :: u ∧ isBlank c = false ∧ c ≠ ']' := by
  have hnumber {c : Char} (hc : StartsNumber c) : isBlank c = false ∧ c ≠ ']' := by
    have hother := hc.not_mem
    simp_all [isBlank]
  cases h with
  | @unsigned n t =>
    obtain ⟨c, u, hu, hc⟩ := exists_cons_toString_nat n.toNat
    exact ⟨c, u ++ t, by rw [hu, List.cons_append], hnumber hc⟩
  | @signed i t =>
    obtain ⟨c, u, hu, hc⟩ := exists_cons_toString i.toInt
    exact ⟨c, u ++ t, by rw [hu, List.cons_append], hnumber hc⟩
  | _ => exact ⟨_, _, rfl, by decide, by decide⟩

/-- The blanks in front of the first item belong to no item. -/
theorem exists_cons_of_elements {ds : List Datum} {s t : List Char} (h : Elements ds s t) :
    ∃ c u, skipBlanks s = c :: u ∧ c ≠ ']' ∧ Elements ds (c :: u) t ∧
      (c :: u).length ≤ s.length := by
  have hfirst {d : Datum} {v : List Char} (he : Element d s v) :
      ∃ c u, skipBlanks s = c :: u ∧ c ≠ ']' ∧ Element d (c :: u) v ∧ (c :: u).length ≤ s.length := by
    obtain ⟨hbefore, hvalue, hafter⟩ := he
    obtain ⟨c, u, rfl, hblank, hc⟩ := exists_cons_of_value hvalue
    exact ⟨c, u, by rw [hbefore.skipBlanks_eq, skipBlanks_cons hblank], hc, .intro .nil hvalue hafter,
      hbefore.length_le⟩
  cases h with
  | last element =>
    obtain ⟨c, u, hskip, hc, he, hlen⟩ := hfirst element
    exact ⟨c, u, hskip, hc, .last he, hlen⟩
  | more element rest =>
    obtain ⟨c, u, hskip, hc, he, hlen⟩ := hfirst element
    exact ⟨c, u, hskip, hc, .more he rest, hlen⟩

/-- With so much fuel, scanning finds the trees of what texts spell. The text that is left is shorter, so
that the fuel lasts for what comes after. Members are scanned from behind the quote of a key. -/
structure Scans (fuel : Nat) : Prop where
  value : ∀ {d s t}, Value d s t → StopsNumber t → 2 * s.length + 1 ≤ fuel →
    ∃ n, scan fuel s = (n, t) ∧ n.Holds d ∧ t.length < s.length
  elements : ∀ {ds s t}, Elements ds s t → 2 * s.length + 2 ≤ fuel →
    ∃ ns, scanItems fuel s = (ns, none, t) ∧ List.Forall₂ Holds ns ds ∧ t.length < s.length
  members : ∀ {ds s t}, Members ds s t → 2 * s.length + 1 ≤ fuel →
    ∃ u ns, skipBlanks s = '"' :: u ∧ scanMembers fuel u = (ns, none, t) ∧
      List.Forall₂ HoldsMember ns ds ∧ t.length < s.length

namespace Scans

variable {fuel : Nat} {d : Datum} {c : Char} {s t : List Char}

/-- What stands between blanks is scanned up to the blanks after it. -/
theorem element (h : Scans fuel) (he : Element d s (c :: t)) (hc : c ∈ [',', ']', '}'])
    (hfuel : 2 * s.length + 1 ≤ fuel) :
    ∃ n u, scan fuel s = (n, u) ∧ n.Holds d ∧ skipBlanks u = c :: t ∧ t.length < s.length := by
  obtain ⟨hbefore, hvalue, hafter⟩ := he
  have hall : ∀ c ∈ [',', ']', '}'], isBlank c = false ∧ digit? c = none ∧ c ≠ '.' ∧ c ≠ 'e' ∧
      c ≠ 'E' := by
    simp [digit?, isBlank]
  have hstop : StopsNumber (c :: t) := by
    intro c' hc'
    obtain rfl : c = c' := by simpa using hc'
    exact (hall c hc).2
  have hlen := hbefore.length_le
  have hlen' := hafter.length_le
  obtain ⟨n, hscan, hholds, hlt⟩ := h.value hvalue (hafter.stopsNumber hstop) (by omega)
  refine ⟨n, _, by rw [scan_blanks hbefore, hscan], hholds, ?_, by grind⟩
  rw [hafter.skipBlanks_eq, skipBlanks_cons (hall c hc).1]

theorem zero : Scans 0 where
  value := fun _ _ hfuel => by omega
  elements := fun _ hfuel => by omega
  members := fun _ hfuel => by omega

/-- A value is scanned by its first character; what is inside of it takes the rest of the fuel. -/
theorem value_succ (h : Scans fuel) (hv : Value d s t) (ht : StopsNumber t)
    (hfuel : 2 * s.length + 1 ≤ fuel + 1) :
    ∃ n, scan (fuel + 1) s = (n, t) ∧ n.Holds d ∧ t.length < s.length := by
  cases hv with
  | null => exact ⟨.null, rfl, .null, by grind⟩
  | true => exact ⟨.bool true, rfl, .bool, by grind⟩
  | false => exact ⟨.bool false, rfl, .bool, by grind⟩
  | @unsigned n t =>
    obtain ⟨c, u, hu, hc⟩ := exists_cons_toString_nat n.toNat
    obtain ⟨numeral, hscan, hread⟩ := Numeral.scan_unsigned n ht
    rw [hu, List.cons_append] at hscan ⊢
    exact ⟨_, scan_number hc hscan, .unsigned hread, by grind⟩
  | @signed i t =>
    obtain ⟨c, u, hu, hc⟩ := exists_cons_toString i.toInt
    obtain ⟨numeral, hscan, hread⟩ := Numeral.scan_signed i ht
    rw [hu, List.cons_append] at hscan ⊢
    exact ⟨_, scan_number hc hscan, .signed hread, by grind⟩
  | str letters =>
    obtain ⟨q, hscan, hread, hlen⟩ := letters.read
    refine ⟨.str q, ?_, .str hread, by grind⟩
    rw [scan, skipBlanks_cons (by decide)]
    simp [hscan]
  -- a list without items may still hold blanks, and so may an object
  | emptyArr blanks =>
    refine ⟨.arr [] none, ?_, .arr .nil, by have := blanks.length_le; grind⟩
    rw [scan, skipBlanks_cons (by decide)]
    simp [blanks.skipBlanks_eq, skipBlanks_cons (c := ']') (by decide)]
  | @arr _ s _ elements =>
    obtain ⟨c, u, hskip, hc, helements, hle⟩ := exists_cons_of_elements elements
    obtain ⟨ns, hscan, hns, hlen⟩ := h.elements helements (by grind)
    refine ⟨.arr ns none, ?_, .arr hns, by grind⟩
    rw [scan, skipBlanks_cons (by decide)]
    simp [hskip, hscan, hc]
  | emptyObj blanks =>
    refine ⟨.obj [] none, ?_, .obj .nil .nil, by have := blanks.length_le; grind⟩
    rw [scan, skipBlanks_cons (by decide)]
    simp [blanks.skipBlanks_eq, skipBlanks_cons (c := '}') (by decide)]
  | obj entries =>
    obtain ⟨u, ns, hskip, hscan, hns, hlen⟩ := h.members entries (by grind)
    refine ⟨.obj ns none, ?_, .of_members hns, by grind⟩
    rw [scan, skipBlanks_cons (by decide)]
    simp [hskip, hscan]

theorem elements_succ (h : Scans fuel) {ds : List Datum} (hds : Elements ds s t)
    (hfuel : 2 * s.length + 2 ≤ fuel + 1) :
    ∃ ns, scanItems (fuel + 1) s = (ns, none, t) ∧ List.Forall₂ Holds ns ds ∧
      t.length < s.length := by
  cases hds with
  | last element =>
    obtain ⟨n, u, hscan, hn, hskip, hlen⟩ := h.element element (by simp) (by omega)
    exact ⟨[n], by simp [scanItems, hscan, hskip], .cons hn .nil, hlen⟩
  | more element rest =>
    obtain ⟨n, u, hscan, hn, hskip, hlen⟩ := h.element element (by simp) (by omega)
    obtain ⟨ns, hscanRest, hns, hlenRest⟩ := h.elements rest (by omega)
    exact ⟨n :: ns, by simp [scanItems, hscan, hskip, hscanRest], .cons hn hns, by omega⟩

/-- A key is scanned from behind its quote up to the colon after it. -/
theorem key {name : String} (hk : Key name s t) :
    ∃ u q v, skipBlanks s = '"' :: u ∧ Quoted.scan u = (q, v) ∧ q.read = .ok name ∧
      skipBlanks v = ':' :: t ∧ t.length + 1 < s.length := by
  obtain ⟨hbefore, hletters, hafter⟩ := hk
  obtain ⟨q, hscan, hread, hlen⟩ := hletters.read
  have hlenBefore := hbefore.length_le
  have hlenAfter := hafter.length_le
  refine ⟨_, q, _, ?_, hscan, hread, ?_, by grind⟩
  · rw [hbefore.skipBlanks_eq, skipBlanks_cons (by decide)]
  · rw [hafter.skipBlanks_eq, skipBlanks_cons (by decide)]

theorem members_succ (h : Scans fuel) {ds : List (String × Datum)} (hds : Members ds s t)
    (hfuel : 2 * s.length + 1 ≤ fuel + 1) :
    ∃ u ns, skipBlanks s = '"' :: u ∧ scanMembers (fuel + 1) u = (ns, none, t) ∧
      List.Forall₂ HoldsMember ns ds ∧ t.length < s.length := by
  cases hds with
  | last hkey element =>
    obtain ⟨u, q, v, hquote, hscanKey, hread, hcolon, hlenKey⟩ := key hkey
    obtain ⟨n, w, hscan, hn, hskip, hlen⟩ := h.element element (by simp) (by omega)
    exact ⟨u, [(q, n)], hquote, by simp [scanMembers, hscanKey, hcolon, hscan, hskip],
      .cons ⟨hread, hn⟩ .nil, by omega⟩
  | more hkey element rest =>
    obtain ⟨u, q, v, hquote, hscanKey, hread, hcolon, hlenKey⟩ := key hkey
    obtain ⟨n, w, hscan, hn, hskip, hlen⟩ := h.element element (by simp) (by omega)
    obtain ⟨x, ns, hquoteRest, hscanRest, hns, hlenRest⟩ := h.members rest (by omega)
    exact ⟨u, (q, n) :: ns, hquote,
      by simp [scanMembers, hscanKey, hcolon, hscan, hskip, hquoteRest, hscanRest],
      .cons ⟨hread, hn⟩ hns, by omega⟩

end Scans

/-- Scanning follows the grammar. Every level takes two units of fuel and at least one character. -/
theorem scans (fuel : Nat) : Scans fuel := by
  induction fuel with
  | zero => exact .zero
  | succ fuel ih =>
    exact { value := ih.value_succ, elements := ih.elements_succ, members := ih.members_succ }

/-- The tree of a whole text holds the datum that the text spells, and only blanks come after it. -/
theorem exists_ofText {d : Datum} {text : String} (h : d.IsText text) :
    ∃ n rest, ofText text.toList = (n, rest) ∧ n.Holds d ∧ skipBlanks rest = [] := by
  obtain ⟨hbefore, hvalue, hafter⟩ := h
  have hlen := hbefore.length_le
  have hstop : StopsNumber [] := by simp [StopsNumber]
  obtain ⟨n, hscan, hn, -⟩ := (scans (2 * text.toList.length + 2)).value hvalue
    (hafter.stopsNumber hstop) (by omega)
  refine ⟨n, _, by rw [ofText, scan_blanks hbefore, hscan], hn, ?_⟩
  rw [hafter.skipBlanks_eq]
  rfl

/-! ## No flaws -/

variable {room : Nat}

theorem checkItems_eq_ok {ns : List Node} {ds : List Datum}
    (h : List.Forall₂ (fun n _ => check room n = .ok ()) ns ds) : checkItems room ns = .ok () := by
  induction h with
  | nil => rfl
  | cons hn _ ih =>
    rw [checkItems, hn]
    exact ih

theorem checkMembers_eq_ok {ns : List (Quoted × Node)} {ds : List (String × Datum)}
    (hkeys : List.Forall₂ (fun n d => n.1.read = .ok d.1) ns ds)
    (hvalues : List.Forall₂ (fun n _ => check room n = .ok ()) (ns.map Prod.snd)
      (ds.map Prod.snd)) :
    checkMembers room ns = .ok () := by
  induction hkeys with
  | nil => rfl
  | cons hkey _ ih =>
    cases hvalues with
    | cons hvalue hrest =>
      rw [checkMembers, hkey, hvalue]
      exact ih hrest

/-- A tree that holds a datum has no flaw, if there is room for its nesting. -/
theorem Holds.check {n : Node} {d : Datum} (h : n.Holds d) (hdepth : d.depth ≤ room) :
    n.check room = .ok () := by
  induction room using Nat.strongRecOn generalizing n d with
  | ind room ih =>
    cases h with
    | null => rfl
    | bool => rfl
    | unsigned hread => simp [Node.check, hread, Except.map]
    | signed hread => simp [Node.check, hread, Except.map]
    | str hread => simp [Node.check, hread, Except.map]
    | arr items =>
      obtain ⟨hroom, hdepths⟩ := Datum.depth_arr_le_iff.1 hdepth
      have hitems := (forall₂_and_of_forall items hdepths).imp fun _ _ hn =>
        ih (room - 1) (by omega) hn.1 hn.2
      simp [Node.check, checkItems_eq_ok hitems, Nat.ne_of_gt hroom, ending, bind, Except.bind]
    | obj keys values =>
      obtain ⟨hroom, hdepths⟩ := Datum.depth_obj_le_iff.1 hdepth
      have hvalues := (forall₂_and_of_forall values hdepths).imp fun _ _ hn =>
        ih (room - 1) (by omega) hn.1 hn.2
      simp [Node.check, checkMembers_eq_ok keys hvalues, Nat.ne_of_gt hroom, ending, bind,
        Except.bind]

end Node

end ModContracts.Json
