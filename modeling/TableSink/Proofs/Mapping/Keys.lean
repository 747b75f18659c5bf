/-
Which columns of a statement's mapping are its key.

An alias table answers for a field what its last row says
(`AliasTable.mem_rows_iff`), so the rows of a mapping are read off its
statement field by field (`get?_aliases_ofStatement`). A key that is declared
is a column of the mapping unless the field of this name is selected under
another name and no field is selected under this one
(`mem_keys_ofStatement`).
-/
import TableSink.Mapping.Build
import TableSink.Mapping.Rule

namespace TableSink

open Text

/-! ## Rows and their keys -/

namespace Rows

variable {κ α β : Type} [BEq κ] [LawfulBEq κ]

theorem lookup_eq_some_iff_mem {rows : List (κ × α)} (h : (rows.map (·.1)).Nodup) {k : κ} {a : α} :
    rows.lookup k = some a ↔ (k, a) ∈ rows := by
  induction rows with
  | nil => simp
  | cons row rows ih =>
    obtain ⟨j, b⟩ := row
    simp only [List.map_cons, List.nodup_cons] at h
    rw [List.lookup_cons, List.mem_cons]
    by_cases hkj : k = j
    · subst hkj
      have hnot : (k, a) ∉ rows := fun hm => h.1 (List.mem_map_of_mem hm)
      simp [hnot, eq_comm]
    · have hb : (k == j) = false := beq_eq_false_iff_ne.mpr hkj
      simp [hb, hkj, ih h.2]

/-- Rows made from keys answer for those keys. -/
theorem lookup_map_key [DecidableEq κ] (f : κ → α) (keys : List κ) (k : κ) :
    (keys.map fun j => (j, f j)).lookup k = if k ∈ keys then some (f k) else none := by
  induction keys with
  | nil => simp
  | cons j keys ih =>
    rw [List.map_cons, List.lookup_cons, ih]
    by_cases hkj : k = j
    · subst hkj
      simp
    · have hb : (k == j) = false := beq_eq_false_iff_ne.mpr hkj
      simp [hb, hkj]

theorem lookup_reverse_eq_none_iff {rows : List (κ × α)} {k : κ} :
    rows.reverse.lookup k = none ↔ k ∉ rows.map (·.1) := by
  simp only [List.lookup_eq_none_iff, List.mem_reverse, List.mem_map, not_exists, not_and,
    bne_iff_ne]
  exact ⟨fun h p hp he => h p hp he.symm, fun h p hp he => h p hp he.symm⟩

omit [LawfulBEq κ] in
theorem lookup_map_value (f : α → β) (rows : List (κ × α)) (k : κ) :
    (rows.map fun row => (row.1, f row.2)).lookup k = (rows.lookup k).map f := by
  induction rows with
  | nil => rfl
  | cons row rows ih =>
    obtain ⟨j, a⟩ := row
    rw [List.map_cons, List.lookup_cons, List.lookup_cons, ih]
    cases k == j <;> rfl

end Rows

/-- A row is in a table where the table answers it for its field. -/
theorem AliasTable.mem_rows_iff {t : AliasTable} {field : Text} {a : Alias} :
    (field, a) ∈ t.rows ↔ t.get? field = some a :=
  (Rows.lookup_eq_some_iff_mem t.distinct).symm

namespace Mapping

theorem mem_keys_iff {m : Mapping} {key : Text} :
    key ∈ m.keys ↔ ∃ field a, m.aliases.get? field = some a ∧ a.isKey = true ∧ a.name = key := by
  simp only [keys, sort, List.mem_mergeSort, List.mem_eraseDups, List.mem_map, List.mem_filter,
    ← AliasTable.mem_rows_iff]
  constructor
  · rintro ⟨⟨field, a⟩, ⟨hm, hk⟩, hn⟩
    exact ⟨field, a, hm, hk, hn⟩
  · rintro ⟨field, a, hm, hk, hn⟩
    exact ⟨(field, a), ⟨hm, hk⟩, hn⟩

end Mapping

/-! ## The columns of a statement -/

namespace Statement

/-- The name in the table that the select list gives a field. Its last entry
for the field counts. -/
def column? (s : Statement) (field : Text) : Option Text :=
  s.fields.reverse.lookup field

theorem column?_eq_none_iff {s : Statement} {field : Text} :
    s.column? field = none ↔ field ∉ s.fields.map (·.1) :=
  Rows.lookup_reverse_eq_none_iff

/-- Do the reserved columns stand in for a key? -/
def NeedsDefaultKey (s : Statement) : Prop :=
  s.autoCreate = true ∧ s.keys = []

instance (s : Statement) : Decidable s.NeedsDefaultKey :=
  inferInstanceAs (Decidable (_ ∧ _))

theorem needsDefaultKey_iff {s : Statement} :
    s.NeedsDefaultKey ↔ (s.autoCreate && s.keys.isEmpty) = true := by
  simp [NeedsDefaultKey]

/-- A declared key is the name of a column: the field of this name is not
selected, or some field is selected under this name. -/
def Keeps (s : Statement) (key : Text) : Prop :=
  s.column? key = none ∨ ∃ field, s.column? field = some key

end Statement

namespace Mapping

theorem aliasRows_eq (s : Statement) :
    aliasRows s = (s.keys.map fun key => (key, ⟨key, true⟩))
      ++ (s.fields.map fun p => (p.1, ⟨p.2, s.keys.contains p.2⟩))
      ++ (if s.NeedsDefaultKey then reservedColumns.map fun column => (column, ⟨column, true⟩)
          else []) := by
  by_cases h : s.NeedsDefaultKey
  · rw [aliasRows, if_pos h, if_pos (Statement.needsDefaultKey_iff.mp h)]
  · rw [aliasRows, if_neg h, if_neg (h ∘ Statement.needsDefaultKey_iff.mpr)]

/-- **The columns of a statement.** The reserved columns count first, then
the select list, then the declared keys. -/
theorem get?_aliases_ofStatement (s : Statement) (field : Text) :
    (ofStatement s).aliases.get? field =
      if s.NeedsDefaultKey ∧ field ∈ reservedColumns then some ⟨field, true⟩
      else
        ((s.column? field).map fun column => ⟨column, s.keys.contains column⟩).or
          (if field ∈ s.keys then some ⟨field, true⟩ else none) := by
  have hreserved : (if s.NeedsDefaultKey then
      reservedColumns.map fun column => (column, (⟨column, true⟩ : Alias))
      else []).reverse.lookup field =
      if s.NeedsDefaultKey ∧ field ∈ reservedColumns then some ⟨field, true⟩ else none := by
    by_cases h : s.NeedsDefaultKey
    · rw [if_pos h, ← List.map_reverse, Rows.lookup_map_key]
      simp [h]
    · simp [h]
  rw [ofStatement, AliasTable.get?_ofRows, aliasRows_eq, List.reverse_append, List.reverse_append,
    List.lookup_append, List.lookup_append, hreserved, ← List.map_reverse, ← List.map_reverse,
    Rows.lookup_map_value fun column => (⟨column, s.keys.contains column⟩ : Alias),
    Rows.lookup_map_key, Statement.column?]
  simp only [List.mem_reverse]
  split <;> rfl

/-- **The keys of a statement.** The reserved columns where they stand in, and
the declared keys that are still columns. -/
theorem mem_keys_ofStatement {s : Statement} {key : Text} :
    key ∈ (ofStatement s).keys ↔
      (s.NeedsDefaultKey ∧ key ∈ reservedColumns) ∨ (key ∈ s.keys ∧ s.Keeps key) := by
  simp only [mem_keys_iff, get?_aliases_ofStatement]
  constructor
  · rintro ⟨field, a, ha, hk, rfl⟩
    split at ha
    next hd =>
      cases ha
      exact .inl hd
    next =>
      obtain ha | ⟨hnone, ha⟩ := Option.or_eq_some_iff.mp ha
      · obtain ⟨column, hc, rfl⟩ := Option.map_eq_some_iff.mp ha
        exact .inr ⟨by simpa using hk, .inr ⟨field, hc⟩⟩
      · split at ha
        next hm =>
          cases ha
          exact .inr ⟨hm, .inl (Option.map_eq_none_iff.mp hnone)⟩
        · cases ha
  · rintro (hd | ⟨hm, hkeep⟩)
    · exact ⟨key, ⟨key, true⟩, if_pos hd, rfl, rfl⟩
    · -- A key is declared, so no reserved column stands in for it.
      have hdefault (field : Text) : ¬(s.NeedsDefaultKey ∧ field ∈ reservedColumns) := by
        rintro ⟨⟨-, hnil⟩, -⟩
        simp [hnil] at hm
      obtain hnone | ⟨field, hsome⟩ := hkeep
      · exact ⟨key, ⟨key, true⟩, by simp [hdefault, hnone, hm], rfl, rfl⟩
      · exact ⟨field, ⟨key, s.keys.contains key⟩, by simp [hdefault, hsome], by simpa, rfl⟩

theorem keys_ofStatement_ne_nil {s : Statement} (h : s.keys ≠ []) :
    (ofStatement s).keys ≠ [] ↔ ∃ key ∈ s.keys, s.Keeps key := by
  have hdefault : ¬s.NeedsDefaultKey := fun hd => h hd.2
  constructor
  · intro hne
    obtain ⟨key, hm⟩ := List.exists_mem_of_ne_nil _ hne
    obtain hd | hkey := mem_keys_ofStatement.mp hm
    · exact absurd hd.1 hdefault
    · exact ⟨key, hkey⟩
  · rintro ⟨key, hkey⟩
    exact List.ne_nil_of_mem (mem_keys_ofStatement.mpr (.inr hkey))

/-- The rule asks for a declared key. -/
theorem keys_ne_nil_of_violation? {s : Statement} (h : (ofStatement s).violation? = none)
    (hmode : (ofStatement s).mode = .upsert) (hcreate : s.autoCreate = true) : s.keys ≠ [] := by
  intro hnil
  have hget : (ofStatement s).aliases.get? partitionColumn = some ⟨partitionColumn, true⟩ := by
    rw [get?_aliases_ofStatement]
    exact if_pos ⟨⟨hcreate, hnil⟩, by simp [reservedColumns]⟩
  have hdefault : (ofStatement s).hasDefaultKey = true := by
    rw [hasDefaultKey, AliasTable.contains, hget]
    rfl
  rw [violation?, if_pos ⟨hmode, hcreate, hdefault⟩] at h
  cases h

end Mapping

end TableSink
