import ModContracts.Json.Quoted
import ModContracts.Proofs.Json.Grammar

/-!
# Strings are read as the grammar means them

* `Quoted.scan_plain`, `Quoted.scan_short`, `Quoted.scan_unit` — what scanning does with one letter;
* `Quoted.readPieces_unit`, `Quoted.readPieces_pair` — what code units stand for;
* `Letters.scan` — a string that the grammar knows is scanned to its end and read as its characters.
-/

namespace ModContracts.Json

/-! ## Single letters -/

theorem hexDigit?_of_hexDigit {c : Char} {value : Nat} (h : HexDigit c value) :
    hexDigit? c = some value := by
  have hlower : ∀ v (_ : v < 16), hexDigit? "0123456789abcdef".toList[v] = some v := by decide
  have hupper : ∀ v (_ : v < 16), hexDigit? "0123456789ABCDEF".toList[v] = some v := by decide
  rcases h with h | h
  · obtain ⟨hlt, rfl⟩ := List.getElem?_eq_some_iff.1 h
    exact hlower value hlt
  · obtain ⟨hlt, rfl⟩ := List.getElem?_eq_some_iff.1 h
    exact hupper value hlt

namespace Quoted

variable {s t : List Char} {q : Quoted}

theorem scan_plain {c : Char} (hcontrol : ' ' ≤ c) (hquote : c ≠ '"') (hescape : c ≠ '\\')
    (h : scan s = (q, t)) : scan (c :: s) = (q.cons (.char c), t) := by
  have hplain : ¬ c < ' ' := Char.not_lt.2 hcontrol
  rw [scan, if_neg hplain, h] <;> simp_all

theorem scan_short {e c : Char} (he : (e, c) ∈ shortEscapes) (h : scan s = (q, t)) :
    scan ('\\' :: e :: s) = (q.cons (.char c), t) := by
  have hall : ∀ p ∈ shortEscapes, shortEscape? p.1 = some p.2 ∧ p.1 ≠ 'u' := by
    simp [shortEscapes, shortEscape?]
  obtain ⟨hletter, hu⟩ := hall (e, c) he
  rw [scan, hletter, h] <;> simp_all

theorem scan_unit {digits : List Char} {code : Nat} (hdigits : HexUnit digits code)
    (h : scan s = (q, t)) :
    scan ('\\' :: 'u' :: (digits ++ s)) = (q.cons (.unit code), t) := by
  cases hdigits with
  | digits ha hb hc hd =>
    simp [scan, hexUnit?, hexDigit?_of_hexDigit ha, hexDigit?_of_hexDigit hb,
      hexDigit?_of_hexDigit hc, hexDigit?_of_hexDigit hd, h]

variable {flaw? : Option Flaw} {pieces : List Piece}

/-- No character has the number of half a pair. -/
theorem readPieces_unit (c : Char) :
    readPieces flaw? (.unit c.toNat :: pieces) = (readPieces flaw? pieces).map (c :: ·) := by
  have hvalid : c.toNat < 0xD800 ∨ 0xDFFF < c.toNat := by
    rcases c.valid with h | h
    · exact .inl h
    · exact .inr h.1
  have hlow : isLow c.toNat = false := by
    simp only [isLow, Bool.and_eq_false_iff, decide_eq_false_iff_not]
    omega
  have hhigh : isHigh c.toNat = false := by
    simp only [isHigh, Bool.and_eq_false_iff, decide_eq_false_iff_not]
    omega
  rw [readPieces.eq_def]
  simp [hlow, hhigh]

theorem readPieces_pair {c : Char} {high low : Nat} (hhigh : high < 0x400) (hlow : low < 0x400)
    (hc : c.toNat = 0x10000 + high * 0x400 + low) :
    readPieces flaw? (.unit (0xD800 + high) :: .unit (0xDC00 + low) :: pieces) =
      (readPieces flaw? pieces).map (c :: ·) := by
  have hfirst : isLow (0xD800 + high) = false ∧ isHigh (0xD800 + high) = true := by
    simp only [isLow, isHigh, Bool.and_eq_false_iff, Bool.and_eq_true, decide_eq_false_iff_not,
      decide_eq_true_eq]
    omega
  have hsecond : isLow (0xDC00 + low) = true := by
    simp only [isLow, Bool.and_eq_true, decide_eq_true_eq]
    omega
  simp [readPieces, hfirst, hsecond, ← hc]

end Quoted

/-! ## Whole strings -/

/-- A string that the grammar knows is scanned to its closing quote, and read as its characters. -/
theorem Letters.scan {cs s t : List Char} (h : Letters cs s t) :
    ∃ pieces, Quoted.scan s = (⟨pieces, none⟩, t) ∧ Quoted.readPieces none pieces = .ok cs ∧
      t.length < s.length := by
  induction h with
  | close => exact ⟨[], rfl, rfl, by simp⟩
  | @plain c _ _ _ hcontrol hquote hescape _ ih =>
    obtain ⟨pieces, hscan, hread, hlen⟩ := ih
    refine ⟨.char c :: pieces, Quoted.scan_plain hcontrol hquote hescape hscan, ?_, by grind⟩
    rw [Quoted.readPieces, hread, Except.map]
  | @short _ c _ _ _ he _ ih =>
    obtain ⟨pieces, hscan, hread, hlen⟩ := ih
    refine ⟨.char c :: pieces, Quoted.scan_short he hscan, ?_, by grind⟩
    rw [Quoted.readPieces, hread, Except.map]
  | @unit c _ _ _ _ hdigits _ ih =>
    obtain ⟨pieces, hscan, hread, hlen⟩ := ih
    refine ⟨.unit c.toNat :: pieces, Quoted.scan_unit hdigits hscan, ?_, by grind⟩
    rw [Quoted.readPieces_unit, hread, Except.map]
  | @pair _ _ _ _ _ _ high low hhigh hlow hhigh_lt hlow_lt hc _ ih =>
    obtain ⟨pieces, hscan, hread, hlen⟩ := ih
    refine ⟨.unit (0xD800 + high) :: .unit (0xDC00 + low) :: pieces,
      Quoted.scan_unit hhigh (Quoted.scan_unit hlow hscan), ?_, by grind⟩
    rw [Quoted.readPieces_pair hhigh_lt hlow_lt hc, hread, Except.map]

/-- The quoted text is a string of these characters. -/
theorem Letters.read {text : String} {s t : List Char} (h : Letters text.toList s t) :
    ∃ q, Quoted.scan s = (q, t) ∧ q.read = .ok text ∧ t.length < s.length := by
  obtain ⟨pieces, hscan, hread, hlen⟩ := h.scan
  exact ⟨_, hscan, by simp [Quoted.read, hread, Except.map], hlen⟩

end ModContracts.Json
