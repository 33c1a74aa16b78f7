import ModContracts.Json.Reader
import ModContracts.Proofs.Json.Scanned
import Mathlib.Data.List.Nodup

/-!
# How typed data are written, and that they are read back

* `OptionalOf`, `ListOf`, `TableOf` — data written as a list, as a table, or as `null` instead;
* `Field`, `ObjectOf` — records written as objects: the fields in any order, some of them left out;
* `readString_eq_ok`, `readOffset_eq_ok`, `readKeyword_eq_ok`, `readOptional_eq_ok`, `readList_eq_ok`,
  `readTable_eq_ok` — what is written so is read back;
* `FieldsRead`, `FieldsRead.readRecord_eq_ok` — a record is read back from each of its forms, if every
  field is.
-/

namespace ModContracts.Json

/-! ## Forms -/

section Forms

variable {α : Type} (W : α → Datum → Prop)

/-- A string. -/
def StringOf (text : String) (d : Datum) : Prop :=
  d = .str text

/-- A byte offset. -/
def OffsetOf (offset : UInt64) (d : Datum) : Prop :=
  d = .unsigned offset

/-- A value, or `null` where there is none. -/
def OptionalOf : Option α → Datum → Prop
  | none, d => d = .null
  | some x, d => W x d

/-- A list whose items satisfy a condition. -/
def InList (P : List Datum → Prop) (d : Datum) : Prop :=
  ∃ ds, d = .arr ds ∧ P ds

/-- An object without a repeated key whose members satisfy a condition. -/
def InObject (P : List (String × Datum) → Prop) (d : Datum) : Prop :=
  ∃ ms, d = .obj ms ∧ (ms.map Prod.fst).Nodup ∧ P ms

/-- The items of a list, one by one. -/
def ListOf (xs : List α) : Datum → Prop :=
  InList (List.Forall₂ W xs)

/-- The entries of a table, one by one. -/
def TableOf (entries : Keyed String α) : Datum → Prop :=
  InObject (List.Forall₂ (fun e m => m.1 = e.1 ∧ W e.2 m.2) entries)

variable {W}

theorem exists_optionalOf {x? : Option α} (h : ∀ x, ∃ d, W x d) : ∃ d, OptionalOf W x? d := by
  cases x? with
  | none => exact ⟨.null, rfl⟩
  | some x => exact h x

theorem exists_listOf {xs : List α} (h : ∀ x ∈ xs, ∃ d, W x d) : ∃ d, ListOf W xs d := by
  obtain ⟨ds, hds⟩ := exists_forall₂_iff.2 h
  exact ⟨.arr ds, ds, rfl, hds⟩

theorem map_fst_of_entries {entries : Keyed String α} {ms : List (String × Datum)}
    (h : List.Forall₂ (fun e m => m.1 = e.1 ∧ W e.2 m.2) entries ms) :
    entries.map Prod.fst = ms.map Prod.fst := by
  rw [← List.forall₂_eq_eq_eq, List.forall₂_map_left_iff, List.forall₂_map_right_iff]
  exact h.imp fun _ _ he => he.1.symm

theorem exists_tableOf {entries : Keyed String α} (hnodup : (entries.map Prod.fst).Nodup)
    (h : ∀ e ∈ entries, ∃ d, W e.2 d) : ∃ d, TableOf W entries d := by
  have hmembers : ∀ e ∈ entries, ∃ m : String × Datum, m.1 = e.1 ∧ W e.2 m.2 := by
    intro e he
    obtain ⟨d, hd⟩ := h e he
    exact ⟨(e.1, d), rfl, hd⟩
  obtain ⟨ms, hms⟩ := exists_forall₂_iff.2 hmembers
  exact ⟨.obj ms, ms, rfl, map_fst_of_entries hms ▸ hnodup, hms⟩

end Forms

/-- A field of a record that is written as an object. -/
structure Field where
  name : String
  /-- What may be written for the field. -/
  form : Datum → Prop
  /-- Whether nothing has to be written. -/
  omittable : Prop

/-- The members of an object write fields: nothing but fields, and every field that may not be omitted. -/
structure Writes (fields : List Field) (members : List (String × Datum)) : Prop where
  form : ∀ m ∈ members, ∃ g ∈ fields, g.name = m.1 ∧ g.form m.2
  complete : ∀ g ∈ fields, g.name ∈ members.map Prod.fst ∨ g.omittable

/-- A record as an object with its fields in any order. -/
def ObjectOf (fields : List Field) : Datum → Prop :=
  InObject (Writes fields)

@[simp] theorem inList_arr_iff {P : List Datum → Prop} {ds : List Datum} :
    InList P (.arr ds) ↔ P ds := by
  simp [InList]

@[simp] theorem inObject_obj_iff {P : List (String × Datum) → Prop} {ms : List (String × Datum)} :
    InObject P (.obj ms) ↔ (ms.map Prod.fst).Nodup ∧ P ms := by
  simp [InObject]

@[simp] theorem objectOf_obj_iff {fields : List Field} {ms : List (String × Datum)} :
    ObjectOf fields (.obj ms) ↔ (ms.map Prod.fst).Nodup ∧
      (∀ m ∈ ms, ∃ g ∈ fields, g.name = m.1 ∧ g.form m.2) ∧
      ∀ g ∈ fields, g.name ∈ ms.map Prod.fst ∨ g.omittable := by
  rw [ObjectOf, inObject_obj_iff]
  exact and_congr_right' ⟨fun h => ⟨h.form, h.complete⟩, fun h => ⟨h.1, h.2⟩⟩

theorem InList.room_ne_zero {P : List Datum → Prop} {d : Datum} {room : Nat} (hd : InList P d)
    (hdepth : d.depth ≤ room) : room ≠ 0 := by
  obtain ⟨ds, rfl, -⟩ := hd
  exact Nat.ne_of_gt (Datum.depth_arr_le_iff.1 hdepth).1

theorem InObject.room_ne_zero {P : List (String × Datum) → Prop} {d : Datum} {room : Nat}
    (hd : InObject P d) (hdepth : d.depth ≤ room) : room ≠ 0 := by
  obtain ⟨ms, rfl, -⟩ := hd
  exact Nat.ne_of_gt (Datum.depth_obj_le_iff.1 hdepth).1

/-- What is either known or has its default is as it is known. -/
theorem known_or_default {α : Type} {name : String} {seen : List String} {x default : α}
    (h : name ∈ seen ∨ x = default) : (if name ∈ seen then x else default) = x := by
  by_cases hname : name ∈ seen
  · rw [if_pos hname]
  · rw [if_neg hname, h.resolve_left hname]

/-- A record can be written by writing all of its fields. -/
theorem exists_objectOf {fields : List Field} (hnodup : (fields.map Field.name).Nodup)
    (h : ∀ g ∈ fields, ∃ d, g.form d) : ∃ d, ObjectOf fields d := by
  have hmembers : ∀ g ∈ fields, ∃ m : String × Datum, m.1 = g.name ∧ g.form m.2 := by
    intro g hg
    obtain ⟨d, hd⟩ := h g hg
    exact ⟨(g.name, d), rfl, hd⟩
  obtain ⟨ms, hms⟩ := exists_forall₂_iff.2 hmembers
  have hnames : ms.map Prod.fst = fields.map Field.name := by
    rw [← List.forall₂_eq_eq_eq, List.forall₂_map_left_iff, List.forall₂_map_right_iff]
    exact hms.flip.imp fun _ _ hm => hm.1
  refine ⟨.obj ms, ms, rfl, hnames ▸ hnodup, ⟨fun m hm => ?_, fun g hg => .inl ?_⟩⟩
  · obtain ⟨g, hg, hname, hd⟩ := exists_mem_of_forall₂ hms hm
    exact ⟨g, hg, hname.symm, hd⟩
  · rw [hnames]
    exact List.mem_map_of_mem hg

/-! ## Plain values -/

section Plain

variable {n : Node}

variable {d : Datum}

theorem readString_eq_ok {text : String} (h : n.Holds d) (hd : StringOf text d) :
    readString n = .ok text := by
  obtain rfl : d = .str text := hd
  cases h with
  | str hread => simp [readString, sound, hread, Except.mapError]

theorem readOffset_eq_ok {offset : UInt64} (h : n.Holds d) (hd : OffsetOf offset d) :
    readOffset n = .ok offset := by
  obtain rfl : d = .unsigned offset := hd
  cases h with
  | unsigned hread => simp [readOffset, hread]

theorem readKeyword_eq_ok {α : Type} {room : Nat} {known : List String} {find : String → Option α}
    {word : String} {x : α} (h : n.Holds d) (hd : StringOf word d) (hfind : find word = some x) :
    readKeyword room known find n = .ok x := by
  obtain rfl : d = .str word := hd
  cases h with
  | str hread => simp [readKeyword, sound, hread, Except.mapError, hfind, bind, Except.bind]

variable {α : Type} {W : α → Datum → Prop} {item : Node → Read α}

theorem readOptional_eq_ok {x? : Option α} (hn : n.Holds d) (hd : OptionalOf W x? d)
    (hnull : ∀ x, ¬ W x .null) (hitem : ∀ x, W x d → item n = .ok x) :
    readOptional item n = .ok x? := by
  cases x? with
  | none =>
    obtain rfl : d = .null := hd
    cases hn with
    | null => rfl
  | some x =>
    have hd : W x d := hd
    cases hn with
    | null => exact absurd hd (hnull x)
    | _ => simp [readOptional, hitem x hd, Except.map]

end Plain

/-! ## Lists and tables -/

section Lists

variable {α : Type} {W : α → Datum → Prop} {item : Node → Read α} {room : Nat} {n : Node} {d : Datum}

theorem readItems_eq_ok {ns : List Node} {xs : List α}
    (h : List.Forall₂ (fun n x => item n = .ok x) ns xs) : readItems item ns none = .ok xs := by
  induction h with
  | nil => rfl
  | cons hn _ ih => rw [readItems, hn, ok_bind, ih]; rfl

theorem readList_eq_ok {xs : List α} (hn : n.Holds d) (hd : ListOf W xs d) (hdepth : d.depth ≤ room)
    (hitem : ∀ n d x, n.Holds d → W x d → d.depth ≤ room - 1 → item n = .ok x) :
    readList room item n = .ok xs := by
  obtain ⟨ds, rfl, hds⟩ := hd
  obtain ⟨hroom, hdepths⟩ := Datum.depth_arr_le_iff.1 hdepth
  cases hn with
  | arr items =>
    rw [readList, if_neg (Nat.ne_of_gt hroom)]
    refine readItems_eq_ok ((forall₂_comp (forall₂_and_of_forall items hdepths) hds.flip).imp ?_)
    rintro n x ⟨d, ⟨hn, hle⟩, hx⟩
    exact hitem n d x hn hx hle

theorem readEntries_eq_ok {ns : List (Quoted × Node)} {entries read : Keyed String α}
    (h : List.Forall₂ (fun n e => n.1.read = .ok e.1 ∧ item n.2 = .ok e.2) ns entries) :
    readEntries item read ns none = .ok (read.putAll entries) := by
  induction h generalizing read with
  | nil => rfl
  | cons hn _ ih =>
    rw [readEntries, hn.1, sound, Except.mapError, ok_bind, hn.2, ok_bind, ih]
    rfl

theorem readTable_eq_ok {entries : Keyed String α} (hn : n.Holds d) (hd : TableOf W entries d)
    (hdepth : d.depth ≤ room)
    (hitem : ∀ n d x, n.Holds d → W x d → d.depth ≤ room - 1 → item n = .ok x) :
    readTable room item n = .ok entries := by
  obtain ⟨ms, rfl, hnodup, hms⟩ := hd
  obtain ⟨hroom, hdepths⟩ := Datum.depth_obj_le_iff.1 hdepth
  obtain ⟨ns, rfl, hns⟩ := hn.members
  rw [List.forall_mem_map] at hdepths
  have hentries : List.Forall₂ (fun n e => n.1.read = .ok e.1 ∧ item n.2 = .ok e.2) ns entries := by
    refine (forall₂_comp (forall₂_and_of_forall hns hdepths) hms.flip).imp ?_
    rintro ⟨key, n⟩ ⟨name, x⟩ ⟨⟨name', d⟩, ⟨⟨hkey, hn⟩, hle⟩, rfl, hx⟩
    exact ⟨hkey, hitem n d x hn hx hle⟩
  rw [readTable, if_neg (Nat.ne_of_gt hroom), readEntries_eq_ok hentries,
    Keyed.putAll_of_nodup (by simpa [map_fst_of_entries hms] using hnodup), List.nil_append]

end Lists

/-! ## Records -/

/-- A record of type `σ` can be read from its written fields. `only seen` is the record of which only the
fields `seen` are known; `target` is the whole of it. -/
structure FieldsRead {σ : Type} (f : RecordFormat) (blank : σ) (set : σ → String → Node → Read σ)
    (only : List String → σ) (room : Nat) (fields : List Field) (target : σ) : Prop where
  start : only [] = blank
  known : ∀ g ∈ fields, g.name ∈ f.fields
  required : ∀ name ∈ f.required, ∃ g ∈ fields, g.name = name ∧ ¬ g.omittable
  /-- Reading a field makes it known. -/
  set : ∀ g ∈ fields, ∀ seen n d, n.Holds d → g.form d → d.depth ≤ room - 1 →
    set (only seen) g.name n = .ok (only (g.name :: seen))
  /-- What is omitted is as it would be without being read. -/
  whole : ∀ seen, (∀ g ∈ fields, g.name ∈ seen ∨ g.omittable) → only seen = target

namespace FieldsRead

variable {σ : Type} {f : RecordFormat} {blank : σ} {set : σ → String → Node → Read σ}
  {only : List String → σ} {room : Nat} {fields : List Field} {target : σ}

/-- Members that write fields not yet seen are read one after the other. -/
theorem readMembers_eq_ok (h : FieldsRead f blank set only room fields target) {ns : List (Quoted × Node)}
    {ms : List (String × Datum)} (hns : List.Forall₂ Node.HoldsMember ns ms)
    (hform : ∀ m ∈ ms, ∃ g ∈ fields, g.name = m.1 ∧ g.form m.2)
    (hdepth : ∀ m ∈ ms, m.2.depth ≤ room - 1) {seen : List String}
    (hnodup : (ms.map Prod.fst ++ seen).Nodup) :
    f.readMembers set ns seen (only seen) =
      .ok ((ms.map Prod.fst).reverse ++ seen, only ((ms.map Prod.fst).reverse ++ seen)) := by
  induction hns generalizing seen with
  | nil => rfl
  | @cons n m ns ms hn _ ih =>
    rw [List.forall_mem_cons] at hform hdepth
    obtain ⟨g, hg, hname, hd⟩ := hform.1
    have hknown : m.1 ∈ f.fields := hname ▸ h.known g hg
    have hunseen : m.1 ∉ seen := fun hmem => by simp_all
    have hset := h.set g hg seen n.2 m.2 hn.2 hd hdepth.1
    have hrest : (ms.map Prod.fst ++ m.1 :: seen).Nodup := by
      rw [List.nodup_middle]
      exact hnodup
    rw [hname] at hset
    rw [RecordFormat.readMembers, hn.1, sound, Except.mapError, ok_bind, if_neg (not_not.2 hknown),
      if_neg hunseen, hset, ok_bind, ih hform.2 hdepth.2 hrest]
    simp

/-- A record is read back from each of its forms. -/
theorem readRecord_eq_ok (h : FieldsRead f blank set only room fields target) {n : Node} {d : Datum}
    (hn : n.Holds d) (hd : ObjectOf fields d) (hdepth : d.depth ≤ room) :
    readRecord f blank set n = .ok target := by
  rw [← h.start]
  obtain ⟨ms, rfl, hnodup, hwrites⟩ := hd
  obtain ⟨ns, rfl, hns⟩ := hn.members
  have hdepths := (Datum.depth_obj_le_iff.1 hdepth).2
  rw [List.forall_mem_map] at hdepths
  have hunseen : (ms.map Prod.fst ++ []).Nodup := by simpa using hnodup
  have hmembers := h.readMembers_eq_ok hns hwrites.form hdepths hunseen
  rw [List.append_nil] at hmembers
  have hwhole : only (ms.map Prod.fst).reverse = target :=
    h.whole _ (by simpa using hwrites.complete)
  have hmissing : f.missing? (ms.map Prod.fst).reverse = none := by
    rw [RecordFormat.missing?, List.find?_eq_none]
    intro name hname
    obtain ⟨g, hg, rfl, hneeded⟩ := h.required name hname
    have hmem := (hwrites.complete g hg).resolve_right hneeded
    simpa using hmem
  rw [readRecord, hmembers, ok_bind]
  simp only [hmissing, hwhole]
  rfl

end FieldsRead

end ModContracts.Json
