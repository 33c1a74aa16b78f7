import Mathlib.Data.List.Lex
import Mathlib.Tactic.Common

/-!
# The order of texts by their bytes

Texts are compared by code points. Their encodings in UTF-8, compared byte by byte, are in the same
order: the encodings of two characters part at a byte that is smaller for the smaller character.

* `utf8Bytes` — the bytes of a text;
* `utf8EncodeChar_append_lt` — two characters decide the order of whatever begins with them;
* `utf8Bytes_lt_iff`, `utf8Bytes_le_iff` — texts are in the order of their bytes.
-/

namespace ModContracts.Text

/-- The bytes of a text in UTF-8. -/
def utf8Bytes (s : String) : List UInt8 :=
  s.toUTF8.data.toList

theorem utf8Bytes_eq_flatMap (s : String) :
    utf8Bytes s = s.toList.flatMap String.utf8EncodeChar := by
  rw [utf8Bytes, String.toUTF8_eq_toByteArray, ← String.ofList_toList (s := s),
    String.toByteArray_ofList, String.ofList_toList, List.utf8Encode, List.data_toByteArray]

/-! ## Characters -/

/-- Of two numbers the smaller one is smaller at the first of their digits to the base of 64 in which
they differ. -/
theorem digits_lt {v w : Nat} (h : v < w) :
    v / 262144 < w / 262144 ∨ v / 262144 = w / 262144 ∧
      (v / 4096 % 64 < w / 4096 % 64 ∨ v / 4096 % 64 = w / 4096 % 64 ∧
        (v / 64 % 64 < w / 64 % 64 ∨ v / 64 % 64 = w / 64 % 64 ∧ v % 64 < w % 64)) := by
  omega

/-- Texts that begin with different characters are in the order of these. -/
theorem utf8EncodeChar_append_lt {c d : Char} (h : c < d) (xs ys : List UInt8) :
    String.utf8EncodeChar c ++ xs < String.utf8EncodeChar d ++ ys := by
  have hval : c.val.toNat < d.val.toNat := h
  have hbound : d.val.toNat < 1114112 := by
    rcases d.valid with hlow | ⟨-, hhigh⟩
    · exact Nat.lt_trans hlow (by decide)
    · exact hhigh
  have hdigits := digits_lt hval
  -- encodings of different lengths differ in the first byte, which tells the length
  unfold String.utf8EncodeChar
  dsimp only
  split_ifs <;>
    simp (disch := omega) only [List.cons_append, List.nil_append, List.cons_lt_cons_iff,
      UInt8.lt_iff_toNat_lt, ← UInt8.toNat_inj, UInt8.toNat_ofNat', Nat.mod_eq_of_lt] <;>
    omega

/-! ## Texts -/

theorem flatMap_utf8EncodeChar_lt {xs ys : List Char} (h : xs < ys) :
    xs.flatMap String.utf8EncodeChar < ys.flatMap String.utf8EncodeChar := by
  induction xs generalizing ys with
  | nil =>
      cases ys with
      | nil => exact absurd h (List.lt_irrefl [])
      | cons d rest =>
          rw [List.flatMap_cons]
          obtain ⟨b, bytes, hbytes⟩ := List.exists_cons_of_ne_nil (String.utf8EncodeChar_ne_nil (c := d))
          rw [hbytes]
          exact List.nil_lt_cons _ _
  | cons c rest ih =>
      cases ys with
      | nil => exact absurd h (List.not_lt_nil _)
      | cons d others =>
          rw [List.flatMap_cons, List.flatMap_cons]
          rcases List.cons_lt_cons_iff.1 h with hlt | ⟨rfl, hlt⟩
          · exact utf8EncodeChar_append_lt hlt _ _
          · exact List.append_left_lt (ih hlt)

theorem utf8Bytes_lt {a b : String} (h : a < b) : utf8Bytes a < utf8Bytes b := by
  rw [utf8Bytes_eq_flatMap, utf8Bytes_eq_flatMap]
  exact flatMap_utf8EncodeChar_lt (String.lt_iff.1 h)

theorem utf8Bytes_lt_iff {a b : String} : utf8Bytes a < utf8Bytes b ↔ a < b := by
  refine ⟨fun hbytes => ?_, utf8Bytes_lt⟩
  by_contra hnot
  rw [String.not_lt] at hnot
  by_cases heq : b = a
  · subst heq
    exact List.lt_irrefl _ hbytes
  · exact List.lt_asymm hbytes (utf8Bytes_lt (Std.lt_of_le_of_ne hnot heq))

/-- A text is at most another one when its bytes are. -/
theorem utf8Bytes_le_iff {a b : String} : utf8Bytes a ≤ utf8Bytes b ↔ a ≤ b := by
  rw [← List.not_lt, utf8Bytes_lt_iff, String.not_lt]

end ModContracts.Text
