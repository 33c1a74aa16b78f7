/-!
# The grammar of JSON

What JSON means, apart from any reader. A relation between a datum and two texts says that the first
text begins with one of the datum's spellings and goes on as the second, so a spelling may be followed
by anything.

* `Datum` — JSON data whose numbers are integers of 64 bits, and `Datum.depth`, how deeply lists and objects nest;
* `Blanks`, `Letters`, `Key` — blanks, the inside of strings, and the keys of objects;
* `Value`, `Element`, `Elements`, `Members` — the spellings of data;
* `Datum.IsText` — the whole texts of a datum; `Datum.exists_isText` — every datum has one.
-/

namespace ModContracts.Json

/-! ## Data -/

/-- What a JSON text stands for, where every number is an integer of 64 bits. -/
inductive Datum where
  | null
  | bool (value : Bool)
  | unsigned (value : UInt64)
  | signed (value : Int64)
  | str (text : String)
  | arr (items : List Datum)
  /-- An object, whose members stand in an order. -/
  | obj (members : List (String × Datum))

namespace Datum

mutual

/-- How many lists and objects are open at once in a datum, at most. -/
def depth : Datum → Nat
  | .null | .bool _ | .unsigned _ | .signed _ | .str _ => 0
  | .arr items => 1 + depthOfItems items
  | .obj members => 1 + depthOfMembers members

/-- The depth of the deepest item. -/
def depthOfItems : List Datum → Nat
  | [] => 0
  | d :: rest => max (depth d) (depthOfItems rest)

/-- The depth of the deepest member. -/
def depthOfMembers : List (String × Datum) → Nat
  | [] => 0
  | (_, d) :: rest => max (depth d) (depthOfMembers rest)

end

variable {room : Nat}

theorem depthOfItems_le_iff {items : List Datum} :
    depthOfItems items ≤ room ↔ ∀ d ∈ items, d.depth ≤ room := by
  induction items with
  | nil => simp [depthOfItems]
  | cons d rest ih => rw [depthOfItems, Nat.max_le, ih, List.forall_mem_cons]

theorem depthOfMembers_le_iff {members : List (String × Datum)} :
    depthOfMembers members ≤ room ↔ ∀ d ∈ members.map Prod.snd, d.depth ≤ room := by
  induction members with
  | nil => simp [depthOfMembers]
  | cons m rest ih => rw [depthOfMembers, Nat.max_le, ih, List.map_cons, List.forall_mem_cons]

/-- A list takes one level, and its items have to fit in the others. -/
theorem depth_arr_le_iff {items : List Datum} :
    (arr items).depth ≤ room ↔ 0 < room ∧ ∀ d ∈ items, d.depth ≤ room - 1 := by
  rw [← depthOfItems_le_iff, depth]
  omega

/-- An object takes one level, and its members have to fit in the others. -/
theorem depth_obj_le_iff {members : List (String × Datum)} :
    (obj members).depth ≤ room ↔ 0 < room ∧ ∀ d ∈ members.map Prod.snd, d.depth ≤ room - 1 := by
  rw [← depthOfMembers_le_iff, depth]
  omega

end Datum

/-! ## Blanks and strings -/

/-- The text goes on after blanks. -/
inductive Blanks : List Char → List Char → Prop where
  | nil {s} : Blanks s s
  | cons {c s t} (hc : c ∈ [' ', '\t', '\n', '\r']) (rest : Blanks s t) : Blanks (c :: s) t

/-- A hexadecimal digit of either case and its value. -/
def HexDigit (c : Char) (value : Nat) : Prop :=
  "0123456789abcdef".toList[value]? = some c ∨ "0123456789ABCDEF".toList[value]? = some c

/-- Four hexadecimal digits and the code unit they stand for. -/
inductive HexUnit : List Char → Nat → Prop where
  | digits {a b c d} {i j k l : Nat} (ha : HexDigit a i) (hb : HexDigit b j) (hc : HexDigit c k)
      (hd : HexDigit d l) : HexUnit [a, b, c, d] (((i * 16 + j) * 16 + k) * 16 + l)

/-- The escapes of one letter, with the characters they stand for. -/
def shortEscapes : List (Char × Char) :=
  [('"', '"'), ('\\', '\\'), ('/', '/'), ('b', '\x08'), ('f', '\x0c'), ('n', '\n'), ('r', '\r'),
    ('t', '\t')]

/-- The text begins with the inside of a string of some characters and its closing quote. -/
inductive Letters : List Char → List Char → List Char → Prop where
  | close {t} : Letters [] ('"' :: t) t
  | plain {c cs s t} (hcontrol : ' ' ≤ c) (hquote : c ≠ '"') (hescape : c ≠ '\\')
      (rest : Letters cs s t) : Letters (c :: cs) (c :: s) t
  | short {e c cs s t} (he : (e, c) ∈ shortEscapes) (rest : Letters cs s t) :
      Letters (c :: cs) ('\\' :: e :: s) t
  /-- A character of the basic plane by its code unit. -/
  | unit {c cs s t digits} (hdigits : HexUnit digits c.toNat) (rest : Letters cs s t) :
      Letters (c :: cs) ('\\' :: 'u' :: (digits ++ s)) t
  /-- A character beyond the basic plane by a pair of code units. -/
  | pair {c cs s t digits digits' high low} (hhigh : HexUnit digits (0xD800 + high))
      (hlow : HexUnit digits' (0xDC00 + low)) (hhigh_lt : high < 0x400) (hlow_lt : low < 0x400)
      (hc : c.toNat = 0x10000 + high * 0x400 + low) (rest : Letters cs s t) :
      Letters (c :: cs) ('\\' :: 'u' :: (digits ++ '\\' :: 'u' :: (digits' ++ s))) t

/-- The text begins with a key and its colon. -/
inductive Key (name : String) : List Char → List Char → Prop where
  | intro {s t u v} (before : Blanks s ('"' :: t)) (letters : Letters name.toList t u)
      (after : Blanks u (':' :: v)) : Key name s v

/-! ## Spellings -/

mutual

/-- The text begins with a spelling of the datum. -/
inductive Value : Datum → List Char → List Char → Prop where
  | null {t} : Value .null ('n' :: 'u' :: 'l' :: 'l' :: t) t
  | true {t} : Value (.bool true) ('t' :: 'r' :: 'u' :: 'e' :: t) t
  | false {t} : Value (.bool false) ('f' :: 'a' :: 'l' :: 's' :: 'e' :: t) t
  | unsigned {n t} : Value (.unsigned n) ((toString n.toNat).toList ++ t) t
  | signed {i t} : Value (.signed i) ((toString i.toInt).toList ++ t) t
  | str {text s t} (letters : Letters text.toList s t) : Value (.str text) ('"' :: s) t
  | emptyArr {s t} (blanks : Blanks s (']' :: t)) : Value (.arr []) ('[' :: s) t
  | arr {items s t} (elements : Elements items s t) : Value (.arr items) ('[' :: s) t
  | emptyObj {s t} (blanks : Blanks s ('}' :: t)) : Value (.obj []) ('{' :: s) t
  | obj {members s t} (entries : Members members s t) : Value (.obj members) ('{' :: s) t

/-- The text begins with a spelling of the datum between blanks. -/
inductive Element : Datum → List Char → List Char → Prop where
  | intro {d s t u v} (before : Blanks s t) (value : Value d t u) (after : Blanks u v) :
      Element d s v

/-- The text begins with items, at least one, and the bracket that closes their list. -/
inductive Elements : List Datum → List Char → List Char → Prop where
  | last {d s t} (element : Element d s (']' :: t)) : Elements [d] s t
  | more {d ds s t u} (element : Element d s (',' :: t)) (rest : Elements ds t u) :
      Elements (d :: ds) s u

/-- The text begins with members, at least one, and the brace that closes their object. -/
inductive Members : List (String × Datum) → List Char → List Char → Prop where
  | last {name d s t u} (key : Key name s t) (element : Element d t ('}' :: u)) :
      Members [(name, d)] s u
  | more {name d ms s t u v} (key : Key name s t) (element : Element d t (',' :: u))
      (rest : Members ms u v) : Members ((name, d) :: ms) s v

end

/-- The text is a spelling of the datum and nothing else. -/
def Datum.IsText (d : Datum) (text : String) : Prop :=
  Element d text.toList []

/-! ## Every datum has a text -/

theorem exists_hexDigit {value : Nat} (h : value < 16) : ∃ c, HexDigit c value :=
  ⟨"0123456789abcdef".toList[value], .inl (List.getElem?_eq_getElem h)⟩

/-- Control characters, quotes and backslashes are escaped, and all else is written plainly. -/
theorem exists_letters (cs t : List Char) : ∃ s, Letters cs s t := by
  induction cs with
  | nil => exact ⟨_, .close⟩
  | cons c cs ih =>
    obtain ⟨s, hs⟩ := ih
    by_cases hquote : c = '"'
    · exact ⟨_, .short (e := '"') (by simp [shortEscapes, hquote]) hs⟩
    by_cases hescape : c = '\\'
    · exact ⟨_, .short (e := '\\') (by simp [shortEscapes, hescape]) hs⟩
    by_cases hcontrol : ' ' ≤ c
    · exact ⟨_, .plain hcontrol hquote hescape hs⟩
    · have hlt : c.toNat < 32 := by
        simpa [Char.le_def, UInt32.le_iff_toNat_le] using hcontrol
      obtain ⟨k, hk⟩ := exists_hexDigit (show c.toNat / 16 < 16 by omega)
      obtain ⟨l, hl⟩ := exists_hexDigit (show c.toNat % 16 < 16 by omega)
      have hunit : HexUnit ['0', '0', k, l] c.toNat := by
        have hcode : ((0 * 16 + 0) * 16 + c.toNat / 16) * 16 + c.toNat % 16 = c.toNat := by omega
        exact hcode ▸ .digits (.inl rfl) (.inl rfl) hk hl
      exact ⟨_, .unit hunit hs⟩

theorem exists_key (name : String) (t : List Char) : ∃ s, Key name s t := by
  obtain ⟨s, hs⟩ := exists_letters name.toList (':' :: t)
  exact ⟨_, .intro .nil hs .nil⟩

theorem Element.of_value {d : Datum} {s t : List Char} (h : Value d s t) : Element d s t :=
  .intro .nil h .nil

mutual

theorem exists_value : ∀ (d : Datum) (t : List Char), ∃ s, Value d s t
  | .null, _ => ⟨_, .null⟩
  | .bool true, _ => ⟨_, .true⟩
  | .bool false, _ => ⟨_, .false⟩
  | .unsigned _, _ => ⟨_, .unsigned⟩
  | .signed _, _ => ⟨_, .signed⟩
  | .str text, t =>
    have ⟨_, hs⟩ := exists_letters text.toList t
    ⟨_, .str hs⟩
  | .arr [], _ => ⟨_, .emptyArr .nil⟩
  | .arr (d :: ds), t =>
    have ⟨_, hs⟩ := exists_elements (d :: ds) (List.cons_ne_nil d ds) t
    ⟨_, .arr hs⟩
  | .obj [], _ => ⟨_, .emptyObj .nil⟩
  | .obj (m :: ms), t =>
    have ⟨_, hs⟩ := exists_members (m :: ms) (List.cons_ne_nil m ms) t
    ⟨_, .obj hs⟩

theorem exists_elements : ∀ (items : List Datum), items ≠ [] → ∀ t, ∃ s, Elements items s t
  | [d], _, t =>
    have ⟨_, hs⟩ := exists_value d (']' :: t)
    ⟨_, .last (.of_value hs)⟩
  | d :: e :: rest, _, t =>
    have ⟨u, hu⟩ := exists_elements (e :: rest) (List.cons_ne_nil e rest) t
    have ⟨_, hs⟩ := exists_value d (',' :: u)
    ⟨_, .more (.of_value hs) hu⟩

theorem exists_members : ∀ (members : List (String × Datum)), members ≠ [] →
    ∀ t, ∃ s, Members members s t
  | [(name, d)], _, t =>
    have ⟨u, hu⟩ := exists_value d ('}' :: t)
    have ⟨_, hs⟩ := exists_key name u
    ⟨_, .last hs (.of_value hu)⟩
  | (name, d) :: m :: rest, _, t =>
    have ⟨v, hv⟩ := exists_members (m :: rest) (List.cons_ne_nil m rest) t
    have ⟨u, hu⟩ := exists_value d (',' :: v)
    have ⟨_, hs⟩ := exists_key name u
    ⟨_, .more hs (.of_value hu) hv⟩

end

theorem Datum.exists_isText (d : Datum) : ∃ text, d.IsText text := by
  obtain ⟨s, hs⟩ := exists_value d []
  exact ⟨String.ofList s, by rw [IsText, String.toList_ofList]; exact .of_value hs⟩

end ModContracts.Json
