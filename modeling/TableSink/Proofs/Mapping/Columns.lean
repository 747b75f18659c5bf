/-
The mapping of a statement, column by column.

The rows of its alias table are written one after the other, and a row for a field
that has one takes its place. What comes of that is told here without an order of
writing: which column a field becomes (`Statement.Gives`), and in which order the
fields stand (`Statement.columnFields`). With the parts that are taken over as they
are, this is all that the mapping says (`Mapping.eq_ofStatement_iff`).
-/
import TableSink.Proofs.Mapping.Keys
import TableSink.Proofs.Mapping.WriteMode

namespace TableSink

open Text

/-! ## The order of rows -/

theorem removeAll_append_singleton {α : Type} [BEq α] [LawfulBEq α] (l seen : List α) (a : α) :
    l.removeAll (seen ++ [a]) = (l.removeAll seen).filter fun b => !b == a := by
  simp only [List.removeAll, List.filter_filter, List.elem_eq_contains, List.contains_append]
  refine List.filter_congr fun b _ => ?_
  simp [Bool.and_comm]

theorem eraseDups_of_nodup {α : Type} [BEq α] [LawfulBEq α] {l : List α} (h : l.Nodup) :
    l.eraseDups = l := by
  induction l with
  | nil => rfl
  | cons a l ih =>
    obtain ⟨ha, hl⟩ := List.nodup_cons.mp h
    have hfilter : l.filter (fun b => !b == a) = l := by
      rw [List.filter_eq_self]
      intro b hb
      have hne : b ≠ a := ne_of_mem_of_not_mem hb ha
      simp [hne]
    rw [List.eraseDups_cons, hfilter, ih hl]

/-- Fields that have no row yet go to the end, in the order in which they come
first. -/
theorem Rows.map_fst_putAll {κ α : Type} [BEq κ] [LawfulBEq κ] (rows new : List (κ × α)) :
    (putAll rows new).map (·.1) =
      rows.map (·.1) ++ ((new.map (·.1)).removeAll (rows.map (·.1))).eraseDups := by
  induction new generalizing rows with
  | nil => simp [putAll, List.removeAll]
  | cons row new ih =>
    obtain ⟨k, a⟩ := row
    have hput := ih (put rows k a)
    have hfirst := map_fst_put rows k a
    rw [List.any_beq] at hfirst
    simp only [putAll, List.foldl_cons] at hput ⊢
    rw [hput, List.map_cons, List.cons_removeAll]
    cases hk : (rows.map (·.1)).contains k with
    | true =>
      rw [hk, if_pos rfl] at hfirst
      rw [hfirst, if_neg (by simp)]
    | false =>
      rw [hk, if_neg Bool.false_ne_true] at hfirst
      rw [hfirst, if_pos rfl, List.eraseDups_cons, removeAll_append_singleton, List.append_assoc,
        List.singleton_append]

/-- Of the rows with a key, the last one answers. -/
theorem Rows.lookup_reverse_eq_some_iff {κ α : Type} [BEq κ] [LawfulBEq κ] {rows : List (κ × α)}
    {k : κ} {a : α} : rows.reverse.lookup k = some a ↔
      ∃ before after, rows = before ++ (k, a) :: after ∧ k ∉ after.map (·.1) := by
  rw [List.lookup_eq_some_iff]
  constructor
  · rintro ⟨before, after, hsplit, hbefore⟩
    refine ⟨after.reverse, before.reverse, ?_, ?_⟩
    · have hrows := congrArg List.reverse hsplit
      simpa using hrows
    · rw [List.mem_map]
      rintro ⟨row, hm, rfl⟩
      have hne := hbefore row (List.mem_reverse.mp hm)
      simp at hne
  · rintro ⟨before, after, hsplit, hafter⟩
    refine ⟨after.reverse, before.reverse, by simp [hsplit], ?_⟩
    intro row hm
    have hne : k ≠ row.1 := by
      rintro rfl
      exact hafter (List.mem_map_of_mem (List.mem_reverse.mp hm))
    simpa using hne

namespace AliasTable

theorem fields_ofRows (rows : List AliasRow) :
    (ofRows rows).fields = (rows.map (·.1)).eraseDups := by
  have hrows := Rows.map_fst_putAll [] rows
  rw [List.map_nil, List.nil_append, List.removeAll_nil] at hrows
  exact hrows

/-- The rows are known from the fields and what the table answers for them. -/
theorem rows_eq_filterMap (t : AliasTable) :
    t.rows = t.fields.filterMap fun field => (t.get? field).map (field, ·) := by
  have hrow : ∀ row ∈ t.rows, (t.get? row.1).map (row.1, ·) = some row := by
    intro row hm
    rw [mem_rows_iff.mp hm]
    rfl
  rw [fields, List.filterMap_map]
  exact (List.filterMap_some.symm.trans (List.filterMap_congr fun row hm => (hrow row hm).symm))

theorem ext_of_get? {t u : AliasTable} (hfields : t.fields = u.fields)
    (hget : ∀ field, t.get? field = u.get? field) : t = u := by
  have hrows : t.rows = u.rows := by
    rw [rows_eq_filterMap t, rows_eq_filterMap u, hfields]
    simp only [hget]
  cases t
  cases u
  cases hrows
  rfl

end AliasTable

/-! ## The columns of a statement -/

namespace Statement

/-- The last entry of the select list for the field gives it this name in the
table. -/
def LastSelects (s : Statement) (field column : Text) : Prop :=
  ∃ before after, s.fields = before ++ (field, column) :: after ∧ field ∉ after.map (·.1)

theorem column?_eq_some_iff {s : Statement} {field column : Text} :
    s.column? field = some column ↔ s.LastSelects field column :=
  Rows.lookup_reverse_eq_some_iff

/-- The column that a field becomes. The reserved columns go before the select
list, and the select list before the declared keys. -/
inductive Gives (s : Statement) : Text → Alias → Prop
  | reserved {column} : s.NeedsDefaultKey → column ∈ reservedColumns → Gives s column ⟨column, true⟩
  | selected {field column} : ¬(s.NeedsDefaultKey ∧ field ∈ reservedColumns) →
      s.LastSelects field column → Gives s field ⟨column, decide (column ∈ s.keys)⟩
  | declared {key} : key ∈ s.keys → key ∉ s.fields.map (·.1) → Gives s key ⟨key, true⟩

/-- The fields that become columns: the declared keys, the selected fields among
which these are not, and the reserved columns that are not selected. -/
def columnFields (s : Statement) : List Text :=
  s.keys.eraseDups ++ ((s.fields.map (·.1)).filter (· ∉ s.keys)).eraseDups
    ++ if s.NeedsDefaultKey then reservedColumns.filter (· ∉ s.fields.map (·.1)) else []

end Statement

namespace Mapping

theorem get?_eq_some_iff_gives {s : Statement} {field : Text} {a : Alias} :
    (ofStatement s).aliases.get? field = some a ↔ s.Gives field a := by
  rw [get?_aliases_ofStatement]
  constructor
  · intro h
    split at h
    next hreserved =>
      cases h
      exact .reserved hreserved.1 hreserved.2
    next hreserved =>
      rcases Option.or_eq_some_iff.mp h with h | ⟨hnone, h⟩
      · obtain ⟨column, hcolumn, rfl⟩ := Option.map_eq_some_iff.mp h
        rw [List.contains_eq_mem]
        exact .selected hreserved (Statement.column?_eq_some_iff.mp hcolumn)
      · split at h
        next hkey =>
          cases h
          refine .declared hkey ?_
          exact Statement.column?_eq_none_iff.mp (Option.map_eq_none_iff.mp hnone)
        next => cases h
  · intro h
    cases h with
    | reserved hneeds hm => exact if_pos ⟨hneeds, hm⟩
    | selected hreserved hlast =>
      rw [if_neg hreserved, Statement.column?_eq_some_iff.mpr hlast]
      simp
    | declared hkey hfield =>
      have hreserved : ¬(s.NeedsDefaultKey ∧ field ∈ reservedColumns) := by
        rintro ⟨⟨-, hnil⟩, -⟩
        rw [hnil] at hkey
        cases hkey
      rw [if_neg hreserved, Statement.column?_eq_none_iff.mpr hfield, if_pos hkey]
      rfl

theorem fields_ofStatement (s : Statement) : (ofStatement s).aliases.fields = s.columnFields := by
  have hselected : ((s.fields.map (·.1)).removeAll s.keys).eraseDups =
      ((s.fields.map (·.1)).filter (· ∉ s.keys)).eraseDups := by
    simp [List.removeAll]
  rw [ofStatement, AliasTable.fields_ofRows, aliasRows_eq, List.map_append, List.map_append,
    List.eraseDups_append, List.eraseDups_append, Statement.columnFields]
  simp only [List.map_map, Function.comp_def, List.map_id']
  rw [hselected]
  congr 1
  split
  next hneeds =>
    -- No key is declared, so the reserved columns come after the selected fields.
    have hdistinct : (reservedColumns.filter (· ∉ s.fields.map (·.1))).Nodup :=
      List.filter_sublist.nodup (by decide)
    have hfirst : (reservedColumns.map fun column => (column, (⟨column, true⟩ : Alias))).map (·.1) =
        reservedColumns := rfl
    rw [hfirst, ← eraseDups_of_nodup hdistinct, hneeds.2]
    simp [List.removeAll]
  next => simp

/-- What a statement says of its mapping. -/
structure Reflects (m : Mapping) (s : Statement) : Prop where
  table : m.table = s.target
  source : m.source = s.source
  allFields : m.allFields = s.selectsAll
  mode : m.mode = .upsert ↔ upper s.mode = "UPSERT"
  columns : ∀ field a, m.aliases.get? field = some a ↔ s.Gives field a
  order : m.aliases.fields = s.columnFields
  autoCreate : m.autoCreate = s.autoCreate
  autoEvolve : m.autoEvolve = s.autoEvolve
  capitalize : m.capitalize = s.capitalize
  ignored : m.ignored = s.ignored

theorem reflects_ofStatement (s : Statement) : (ofStatement s).Reflects s := by
  constructor
  case mode => exact WriteMode.ofWord_eq_upsert_iff s.mode
  case columns => exact fun _ _ => get?_eq_some_iff_gives
  case order => exact fields_ofStatement s
  all_goals rfl

/-- **The mapping of a statement** is the one that says what the statement says of
it: its columns, their order and the parts that are taken over. -/
theorem eq_ofStatement_iff {m : Mapping} {s : Statement} : m = ofStatement s ↔ m.Reflects s := by
  constructor
  · rintro rfl
    exact reflects_ofStatement s
  · intro h
    have h' := reflects_ofStatement s
    have haliases : m.aliases = (ofStatement s).aliases := by
      refine AliasTable.ext_of_get? (h.order.trans h'.order.symm) fun field => ?_
      exact Option.ext fun a => (h.columns field a).trans (h'.columns field a).symm
    have hmode : m.mode = (ofStatement s).mode := by
      have hiff := h.mode.trans h'.mode.symm
      revert hiff
      cases m.mode <;> cases (ofStatement s).mode <;> simp
    cases m
    obtain ⟨rfl, rfl, rfl, -, -, -, rfl, rfl, rfl, rfl⟩ := h
    cases haliases
    cases hmode
    rfl

end Mapping

end TableSink
