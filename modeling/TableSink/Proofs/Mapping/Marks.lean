/-
The key of a mapping and the marks of its columns.

The key is made of declared names, or of the reserved columns where these stand in for
one (`keys_kept_or_reserved`). A declared name is lost where the field of this name is
selected under another, unless some field is selected under it. The columns of the key
are marked, whichever field they come from, but for one case: a field that is selected
under the name of a reserved column is not marked, though the column is part of the key
(`marks_agree_iff`).
-/
import TableSink.Proofs.Mapping.Columns
import TableSink.Proofs.Text.Order
import TableSink.Statement.Parser

namespace TableSink

open Text

/-! ## Marks -/

/-- While the reserved columns stand in for a key, a field that is none of them is
selected under the name of one. -/
def Statement.BorrowsReserved (s : Statement) : Prop :=
  s.NeedsDefaultKey ∧
    ∃ field column, s.LastSelects field column ∧ column ∈ reservedColumns ∧ field ∉ reservedColumns

namespace Mapping

theorem mem_rows_iff_gives {s : Statement} {row : AliasRow} :
    row ∈ (ofStatement s).aliases.rows ↔ s.Gives row.1 row.2 :=
  AliasTable.mem_rows_iff.trans get?_eq_some_iff_gives

/-- Where the reserved columns stand in for a key, they are the key. -/
theorem mem_keys_of_needsDefaultKey {s : Statement} (h : s.NeedsDefaultKey) {key : Text} :
    key ∈ (ofStatement s).keys ↔ key ∈ reservedColumns := by
  rw [mem_keys_ofStatement, h.2]
  simp [h]

theorem mem_keys_of_not_needsDefaultKey {s : Statement} (h : ¬s.NeedsDefaultKey) {key : Text} :
    key ∈ (ofStatement s).keys ↔ key ∈ s.keys ∧ s.Keeps key := by
  rw [mem_keys_ofStatement]
  simp [h]

/-- A column is marked where it is part of the key, unless the reserved columns stand in
for a key and it comes from another field. -/
theorem isKey_iff_of_gives {s : Statement} {field : Text} {a : Alias} (h : s.Gives field a) :
    a.isKey = true ↔
      a.name ∈ (ofStatement s).keys ∧ ¬(s.NeedsDefaultKey ∧ field ∉ reservedColumns) := by
  cases h with
  | reserved hneeds hm => simp [mem_keys_of_needsDefaultKey hneeds, hm]
  | @selected column hreserved hlast =>
    by_cases hneeds : s.NeedsDefaultKey
    · have hfield : field ∉ reservedColumns := fun hm => hreserved ⟨hneeds, hm⟩
      simp [hneeds, hneeds.2, hfield]
    · have hkeep : s.Keeps column := .inr ⟨field, Statement.column?_eq_some_iff.mpr hlast⟩
      simp [mem_keys_of_not_needsDefaultKey hneeds, hneeds, hkeep]
  | declared hkey hfield =>
    have hneeds : ¬s.NeedsDefaultKey := fun hneeds => by simp [hneeds.2] at hkey
    have hkeep : s.Keeps field := .inl (Statement.column?_eq_none_iff.mpr hfield)
    simp [mem_keys_of_not_needsDefaultKey hneeds, hneeds, hkeep, hkey]

/-- What goes wrong where a field borrows the name of a reserved column: this column has
a mark in its own row, and none in the row of the field. -/
theorem exists_rows_of_borrowsReserved {s : Statement} (h : s.BorrowsReserved) :
    ∃ field column, column ∈ (ofStatement s).keys ∧
      (field, ⟨column, false⟩) ∈ (ofStatement s).aliases.rows ∧
      (column, ⟨column, true⟩) ∈ (ofStatement s).aliases.rows := by
  obtain ⟨hneeds, field, column, hlast, hcolumn, hfield⟩ := h
  have hselected : s.Gives field ⟨column, decide (column ∈ s.keys)⟩ :=
    .selected (fun hreserved => hfield hreserved.2) hlast
  have hunmarked : decide (column ∈ s.keys) = false := by simp [hneeds.2]
  rw [hunmarked] at hselected
  exact ⟨field, column, (mem_keys_of_needsDefaultKey hneeds).mpr hcolumn,
    mem_rows_iff_gives.mpr hselected, mem_rows_iff_gives.mpr (.reserved hneeds hcolumn)⟩

/-- **Marks tell the key.** The marked rows are those whose columns are part of the key,
and rows of one column are marked alike, in every mapping but those in which a field
borrows the name of a reserved column; there, both fail. -/
theorem marks_agree_iff (s : Statement) :
    ((∀ row ∈ (ofStatement s).aliases.rows,
        row.2.isKey = true ↔ row.2.name ∈ (ofStatement s).keys) ↔ ¬s.BorrowsReserved) ∧
    ((∀ row ∈ (ofStatement s).aliases.rows, ∀ row' ∈ (ofStatement s).aliases.rows,
        row.2.name = row'.2.name → row.2.isKey = row'.2.isKey) ↔ ¬s.BorrowsReserved) := by
  have hmarks (h : ¬s.BorrowsReserved) : ∀ row ∈ (ofStatement s).aliases.rows,
      row.2.isKey = true ↔ row.2.name ∈ (ofStatement s).keys := by
    rintro ⟨field, a⟩ hrow
    have hgives : s.Gives field a := mem_rows_iff_gives.mp hrow
    rw [isKey_iff_of_gives hgives, and_iff_left_iff_imp]
    rintro hkey ⟨hneeds, hfield⟩
    have hname : a.name ∈ reservedColumns := (mem_keys_of_needsDefaultKey hneeds).mp hkey
    cases hgives with
    | reserved _ hm => exact hfield hm
    | selected _ hlast => exact h ⟨hneeds, field, _, hlast, hname, hfield⟩
    | declared => exact hfield hname
  refine ⟨⟨?_, hmarks⟩, ?_, ?_⟩
  · intro hall hborrows
    obtain ⟨field, column, hkey, hrow, -⟩ := exists_rows_of_borrowsReserved hborrows
    have hmark := (hall _ hrow).mpr hkey
    cases hmark
  · intro hall hborrows
    obtain ⟨field, column, -, hrow, hrow'⟩ := exists_rows_of_borrowsReserved hborrows
    have hmark := hall _ hrow _ hrow' rfl
    cases hmark
  · intro h row hrow row' hrow' hname
    rw [Bool.eq_iff_iff, hmarks h row hrow, hmarks h row' hrow', hname]

/-- A statement that selects a field under the name of a reserved column. -/
def borrowing : Statement where
  target := "t"
  source := "s"
  selectsAll := false
  fields := [("a", topicColumn)]
  keys := []
  autoCreate := true

theorem parse_borrowing :
    Statement.parse "INSERT INTO t SELECT a AS __connect_topic FROM s AUTOCREATE" = .ok borrowing := by
  with_unfolding_all rfl

theorem borrowsReserved_borrowing : borrowing.BorrowsReserved := by
  refine ⟨⟨rfl, rfl⟩, "a", topicColumn, ⟨[], [], rfl, by simp⟩, ?_, ?_⟩
  · decide
  · decide

/-- A column of the key can be without its mark, and marked in another row. -/
theorem not_forall_marks_agree :
    (¬∀ (text : Text) (s : Statement), Statement.parse text = .ok s →
      ∀ row ∈ (ofStatement s).aliases.rows,
        row.2.isKey = true ↔ row.2.name ∈ (ofStatement s).keys) ∧
    ¬∀ (text : Text) (s : Statement), Statement.parse text = .ok s →
      ∀ row ∈ (ofStatement s).aliases.rows, ∀ row' ∈ (ofStatement s).aliases.rows,
        row.2.name = row'.2.name → row.2.isKey = row'.2.isKey := by
  obtain ⟨field, column, hkey, hrow, hrow'⟩ :=
    exists_rows_of_borrowsReserved borrowsReserved_borrowing
  constructor
  · intro h
    have hmark := (h _ _ parse_borrowing _ hrow).mpr hkey
    cases hmark
  · intro h
    have hmark := h _ _ parse_borrowing _ hrow _ hrow' rfl
    cases hmark

/-! ## The list of keys -/

theorem nodup_eraseDups {α : Type} [BEq α] [LawfulBEq α] (l : List α) : l.eraseDups.Nodup := by
  match l with
  | [] => exact .nil
  | a :: l =>
    rw [List.eraseDups_cons, List.nodup_cons]
    refine ⟨fun hm => ?_, nodup_eraseDups _⟩
    simp at hm
termination_by l.length
decreasing_by exact Nat.lt_succ_of_le (List.length_filter_le _ _)

theorem pairwise_lt_keys (m : Mapping) :
    m.keys.Pairwise fun key key' => key.map CodePoint.toNat < key'.map CodePoint.toNat :=
  pairwise_lt_sort (nodup_eraseDups _)

theorem keys_of_needsDefaultKey {s : Statement} (h : s.NeedsDefaultKey) :
    (ofStatement s).keys = [offsetColumn, partitionColumn, topicColumn] := by
  have hnodup : (ofStatement s).keys.Nodup := (perm_sort _).nodup_iff.mpr (nodup_eraseDups _)
  have hmem (key : Text) : key ∈ (ofStatement s).keys ↔
      key ∈ ([offsetColumn, partitionColumn, topicColumn] : List Text) := by
    have hreverse : reservedColumns =
        ([offsetColumn, partitionColumn, topicColumn] : List Text).reverse := rfl
    rw [mem_keys_of_needsDefaultKey h, hreverse, List.mem_reverse]
  have hperm : (ofStatement s).keys.Perm [offsetColumn, partitionColumn, topicColumn] :=
    (List.perm_ext_iff_of_nodup hnodup (by decide)).mpr hmem
  exact hperm.eq_of_pairwise (fun _ _ _ _ => le_antisymm) (pairwise_sort _) (by decide)

theorem not_keeps_iff {s : Statement} {key : Text} : ¬s.Keeps key ↔
    ∃ column, s.LastSelects key column ∧ column ≠ key ∧ ∀ field, ¬s.LastSelects field key := by
  simp only [Statement.Keeps, ← Statement.column?_eq_some_iff, not_or, not_exists,
    ← ne_eq, Option.ne_none_iff_exists']
  constructor
  · rintro ⟨⟨column, hcolumn⟩, hnone⟩
    refine ⟨column, hcolumn, ?_, hnone⟩
    rintro rfl
    exact hnone column hcolumn
  · rintro ⟨column, hcolumn, -, hnone⟩
    exact ⟨⟨column, hcolumn⟩, hnone⟩

/-- **The key of a mapping** is in strict order. Where the reserved columns stand in for
a key it is made of these; otherwise of the declared names, less those whose field is
selected under another name and under which no field is selected. -/
theorem keys_kept_or_reserved (s : Statement) :
    ((ofStatement s).keys.Pairwise fun key key' =>
      key.map CodePoint.toNat < key'.map CodePoint.toNat) ∧
    (s.NeedsDefaultKey → (ofStatement s).keys = [offsetColumn, partitionColumn, topicColumn]) ∧
    (¬s.NeedsDefaultKey →
      (∀ key ∈ (ofStatement s).keys, key ∈ s.keys) ∧
      ∀ key ∈ s.keys, key ∉ (ofStatement s).keys ↔
        ∃ column, s.LastSelects key column ∧ column ≠ key ∧ ∀ field, ¬s.LastSelects field key) := by
  refine ⟨pairwise_lt_keys _, keys_of_needsDefaultKey, fun hneeds => ⟨?_, ?_⟩⟩
  · intro key hkey
    exact ((mem_keys_of_not_needsDefaultKey hneeds).mp hkey).1
  · intro key hkey
    rw [mem_keys_of_not_needsDefaultKey hneeds, ← not_keeps_iff]
    simp [hkey]

end Mapping

end TableSink
