import ModContracts.Json.Numeral
import ModContracts.Proofs.Json.Grammar

/-!
# Integers are read as the grammar means them

* `StopsNumber` — a text that no number goes on into;
* `digitsOf` — the digits of a natural number, of which `Numeral.takeDigits` takes all;
* `Numeral.scan_toDigits`, `Numeral.scan_neg_toDigits` — what scanning makes of digits;
* `Numeral.read_digitsOf`, `Numeral.read_neg_digitsOf` — and reading of what was scanned;
* `Numeral.scan_unsigned`, `Numeral.scan_signed` — an integer of 64 bits is scanned to its end and read
  as what it is.
-/

namespace ModContracts.Json

/-- A number does not go on into the text. -/
def StopsNumber (t : List Char) : Prop :=
  ∀ c ∈ t.head?, digit? c = none ∧ c ≠ '.' ∧ c ≠ 'e' ∧ c ≠ 'E'

/-- The first character of a number: a sign or a digit. -/
def StartsNumber (c : Char) : Prop :=
  c = '-' ∨ c.isDigit = true

theorem StartsNumber.not_mem {c : Char} (hc : StartsNumber c) :
    c ∉ [' ', '\t', '\n', '\r', '"', '[', ']', '{', 'n', 't', 'f'] := by
  have hall : ∀ c ∈ [' ', '\t', '\n', '\r', '"', '[', ']', '{', 'n', 't', 'f'],
      c ≠ '-' ∧ c.isDigit = false := by
    simp
  intro hmem
  rcases hc with rfl | hc
  · exact (hall _ hmem).1 rfl
  · have hfalse := (hall c hmem).2
    rw [hc] at hfalse
    cases hfalse

/-! ## Digits -/

/-- The digits of a natural number, the most significant first. -/
def digitsOf (n : Nat) : List Nat :=
  (Nat.toDigits 10 n).map fun c => c.toNat - '0'.toNat

theorem digit?_of_isDigit {c : Char} (h : c.isDigit = true) :
    digit? c = some (c.toNat - '0'.toNat) := by
  have hbounds : '0' ≤ c ∧ c ≤ '9' := by
    simp only [Char.isDigit, Bool.and_eq_true, decide_eq_true_eq] at h
    exact h
  simp [digit?, hbounds]

theorem digits_append {cs t : List Char} (hcs : ∀ c ∈ cs, c.isDigit = true) (ht : StopsNumber t) :
    digits (cs ++ t) = (cs.map fun c => c.toNat - '0'.toNat, t) := by
  induction cs with
  | nil =>
    cases t with
    | nil => rfl
    | cons c t => simp [digits, (ht c rfl).1]
  | cons c cs ih =>
    rw [List.forall_mem_cons] at hcs
    simp [digits, digit?_of_isDigit hcs.1, ih hcs.2]

theorem digits_toDigits (n : Nat) {t : List Char} (ht : StopsNumber t) :
    digits (Nat.toDigits 10 n ++ t) = (digitsOf n, t) :=
  digits_append (fun _ hc => Nat.isDigit_of_mem_toDigits (by decide) (by decide) hc) ht

theorem exists_cons_toDigits (n : Nat) :
    ∃ c cs, Nat.toDigits 10 n = c :: cs ∧ c.isDigit = true := by
  obtain ⟨c, cs, hcs⟩ := List.exists_cons_of_ne_nil (Nat.toDigits_ne_nil (n := n) (b := 10))
  have hmem : c ∈ Nat.toDigits 10 n := by simp [hcs]
  exact ⟨c, cs, hcs, Nat.isDigit_of_mem_toDigits (by decide) (by decide) hmem⟩

/-- Only zero is written with a zero in front. -/
theorem pos_head_digitsOf {n : Nat} (h : 0 < n) : ∃ d ds, digitsOf n = d :: ds ∧ 0 < d := by
  induction n using Nat.strongRecOn with
  | ind n ih =>
    by_cases hn : n < 10
    · refine ⟨n, [], ?_, h⟩
      simp [digitsOf, Nat.toDigits_of_lt_base hn, Nat.toNat_digitChar_of_lt_ten hn]
    · obtain ⟨d, ds, hds, hd⟩ := ih (n / 10) (by omega) (by omega)
      refine ⟨d, ds ++ [((n % 10).digitChar).toNat - '0'.toNat], ?_, hd⟩
      rw [digitsOf, Nat.toDigits_of_base_le (by decide) (by omega), List.map_append, ← digitsOf, hds]
      rfl

theorem digitsOf_zero : digitsOf 0 = [0] := by
  simp [digitsOf]

theorem foldl_digitsOf (n : Nat) : (digitsOf n).foldl (fun acc d => 10 * acc + d) 0 = n := by
  have hvalue := Nat.ofDigitChars_ten_toDigits (n := n)
  rwa [Nat.ofDigitChars_eq_foldl, ← List.foldl_map] at hvalue

namespace Numeral

theorem le_foldl_digits (ds : List Nat) (n : Nat) :
    n ≤ ds.foldl (fun acc d => 10 * acc + d) n := by
  induction ds generalizing n with
  | nil => exact Nat.le_refl n
  | cons d ds ih =>
    have hnext := ih (10 * n + d)
    rw [List.foldl_cons]
    omega

/-- As long as the whole number is below the limit, so is the number after every digit. -/
theorem takeDigits_eq {ds : List Nat} {n : Nat}
    (h : ds.foldl (fun acc d => 10 * acc + d) n < limit) :
    takeDigits n ds = (ds.foldl (fun acc d => 10 * acc + d) n, []) := by
  induction ds generalizing n with
  | nil => rfl
  | cons d ds ih =>
    have hlt : 10 * n + d < limit := Nat.lt_of_le_of_lt (le_foldl_digits ds (10 * n + d)) h
    rw [takeDigits, if_pos hlt, ih h, List.foldl_cons]

theorem takeDigits_digitsOf {n : Nat} (h : n < limit) : takeDigits 0 (digitsOf n) = (n, []) := by
  rw [takeDigits_eq, foldl_digitsOf]
  rwa [foldl_digitsOf]

/-! ## Scanning -/

variable {t : List Char}

theorem scanWhole_toDigits (n : Nat) (ht : StopsNumber t) :
    scanWhole (Nat.toDigits 10 n ++ t) = .ok (digitsOf n, t) := by
  rcases Nat.eq_zero_or_pos n with rfl | hn
  · rw [scanWhole, someDigits, digits_toDigits _ ht, digitsOf_zero]
    rfl
  · obtain ⟨d, ds, hds, hd⟩ := pos_head_digitsOf hn
    have hne : d ≠ 0 := by omega
    simp [scanWhole, someDigits, digits_toDigits n ht, hds, hne, bind, Except.bind, pure, Except.pure]

theorem scanFraction_of_stops (ht : StopsNumber t) : scanFraction t = .ok (none, t) := by
  cases t with
  | nil => rfl
  | cons c t =>
    have hc := (ht c rfl).2.1
    rw [scanFraction]
    simp [hc]

theorem scanExponent_of_stops (ht : StopsNumber t) : scanExponent t = .ok (none, t) := by
  cases t with
  | nil => rfl
  | cons c t =>
    obtain ⟨-, -, he, hE⟩ := ht c rfl
    simp [scanExponent, he, hE]

theorem scan_toDigits (n : Nat) (ht : StopsNumber t) :
    scan (Nat.toDigits 10 n ++ t) = .ok ({ negative := false, whole := digitsOf n }, t) := by
  have hsign : ∀ rest, Nat.toDigits 10 n ++ t ≠ '-' :: rest := by
    obtain ⟨c, cs, hcs, hc⟩ := exists_cons_toDigits n
    intro rest heq
    rw [hcs, List.cons_append, List.cons.injEq] at heq
    simp [heq.1] at hc
  rw [scan.eq_def]
  simp [scanWhole_toDigits n ht, scanFraction_of_stops ht, scanExponent_of_stops ht, bind,
    Except.bind, pure, Except.pure]

theorem scan_neg_toDigits (n : Nat) (ht : StopsNumber t) :
    scan ('-' :: (Nat.toDigits 10 n ++ t)) = .ok ({ negative := true, whole := digitsOf n }, t) := by
  simp [scan, scanWhole_toDigits n ht, scanFraction_of_stops ht, scanExponent_of_stops ht, bind,
    Except.bind, pure, Except.pure]

/-! ## Reading -/

theorem read_digitsOf {n : Nat} (h : n < limit) :
    ({ negative := false, whole := digitsOf n } : Numeral).read =
      .ok (.natural (UInt64.ofNat n)) := by
  simp [read, takeDigits_digitsOf h]

theorem read_neg_digitsOf {n : Nat} (hpos : 0 < n) (h : n ≤ Nat.pow 2 63) :
    ({ negative := true, whole := digitsOf n } : Numeral).read =
      .ok (.negative (Int64.ofInt (-(n : Int)))) := by
  have hlt : n < limit := Nat.lt_of_le_of_lt h (by decide)
  have hin : ¬ (n = 0 ∨ Nat.pow 2 63 < n) := by omega
  simp [read, takeDigits_digitsOf hlt, hin]

end Numeral

/-! ## Integers as they are written -/

theorem toList_toString_nat (n : Nat) : (toString n).toList = Nat.toDigits 10 n := by
  rw [Nat.toString_eq_ofList_toDigits, String.toList_ofList]

theorem toList_toString_of_nonneg {i : Int} (h : 0 ≤ i) :
    (toString i).toList = Nat.toDigits 10 i.toNat := by
  rw [Int.toString_eq_repr, Int.repr_eq_if, if_pos h, Nat.repr_eq_ofList_toDigits,
    String.toList_ofList]

theorem toList_toString_of_neg {i : Int} (h : i < 0) :
    (toString i).toList = '-' :: Nat.toDigits 10 (-i).toNat := by
  rw [Int.toString_eq_repr, Int.repr_eq_if, if_neg (by omega), Nat.repr_eq_ofList_toDigits]
  simp

theorem exists_cons_toString_nat (n : Nat) :
    ∃ c cs, (toString n).toList = c :: cs ∧ StartsNumber c := by
  obtain ⟨c, cs, hcs, hc⟩ := exists_cons_toDigits n
  exact ⟨c, cs, by rw [toList_toString_nat, hcs], .inr hc⟩

theorem exists_cons_toString (i : Int) :
    ∃ c cs, (toString i).toList = c :: cs ∧ StartsNumber c := by
  by_cases h : i < 0
  · exact ⟨_, _, toList_toString_of_neg h, .inl rfl⟩
  · obtain ⟨c, cs, hcs, hc⟩ := exists_cons_toDigits i.toNat
    exact ⟨c, cs, by rw [toList_toString_of_nonneg (by omega), hcs], .inr hc⟩

/-- How a signed integer is read: as a natural number unless it is negative. -/
def Number.ofInt64 (i : Int64) : Number :=
  if i.toInt < 0 then .negative i else .natural (UInt64.ofNat i.toInt.toNat)

namespace Numeral

variable {t : List Char}

theorem scan_unsigned (n : UInt64) (ht : StopsNumber t) :
    ∃ numeral, scan ((toString n.toNat).toList ++ t) = .ok (numeral, t) ∧
      numeral.read = .ok (.natural n) := by
  rw [toList_toString_nat]
  refine ⟨_, scan_toDigits n.toNat ht, ?_⟩
  rw [read_digitsOf n.toNat_lt, UInt64.ofNat_toNat]

theorem scan_signed (i : Int64) (ht : StopsNumber t) :
    ∃ numeral, scan ((toString i.toInt).toList ++ t) = .ok (numeral, t) ∧
      numeral.read = .ok (.ofInt64 i) := by
  have hlow := i.le_toInt
  have hhigh := i.toInt_lt
  by_cases hneg : i.toInt < 0
  · have hvalue : -((-i.toInt).toNat : Int) = i.toInt := by omega
    rw [toList_toString_of_neg hneg, Number.ofInt64, if_pos hneg]
    refine ⟨_, scan_neg_toDigits _ ht, ?_⟩
    have hle : (-i.toInt).toNat ≤ Nat.pow 2 63 := by
      rw [Nat.pow_eq]
      omega
    rw [read_neg_digitsOf (by omega) hle, hvalue, Int64.ofInt_toInt]
  · have hlt : i.toInt.toNat < limit := by
      rw [limit, Nat.pow_eq]
      omega
    rw [toList_toString_of_nonneg (by omega), Number.ofInt64, if_neg hneg]
    exact ⟨_, scan_toDigits _ ht, read_digitsOf hlt⟩

end Numeral

end ModContracts.Json
