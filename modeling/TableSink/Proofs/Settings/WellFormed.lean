/-
What holds of all settings.

Settings have a connection, positive sizes and at least one mapping; the names
in a mapping could stand in backquotes in a statement, no field has two columns,
and the rule on keys is kept. Nothing checks all of this: names come out of the
statements as they were cut (`Statement.expressible_of_parse`), the columns are
put together from them (`Mapping.wellFormed_ofStatement`), and the rest is what
a request is asked for. So it is carried from one stage to the next, up to every
request and every configuration that comes to settings
(`wellFormed_of_result`).
-/
import TableSink.Proofs.Config.Request
import TableSink.Proofs.Mapping.Violation

namespace TableSink

open Text Statement

/-! ## Mappings -/

/-- A mapping as it is made from a statement. -/
structure Mapping.WellFormed (m : Mapping) : Prop where
  table : Quotable m.table
  source : Quotable m.source
  /-- Something is written: all fields, or some that are named. -/
  selects : m.allFields = true ∨ m.aliases.rows ≠ []
  fields : ∀ row ∈ m.aliases.rows, Quotable row.1
  columns : ∀ row ∈ m.aliases.rows, Quotable row.2.name
  distinct : m.aliases.fields.Nodup
  ignored : ∀ field ∈ m.ignored, Quotable field
  rule : ¬(m.mode = .upsert ∧ m.autoCreate = true ∧ ofString partitionColumn ∈ m.aliases.fields)

theorem Statement.mem_fields_of_column? {s : Statement} {field column : Text}
    (h : s.column? field = some column) : (field, column) ∈ s.fields := by
  obtain ⟨before, after, hsplit, -⟩ := List.lookup_eq_some_iff.mp h
  rw [← List.mem_reverse, hsplit]
  exact List.mem_append_right _ List.mem_cons_self

theorem AliasTable.contains_iff {t : AliasTable} {field : Text} :
    t.contains field = true ↔ field ∈ t.fields := by
  rw [contains, Option.isSome_iff_exists, fields, List.mem_map]
  constructor
  · rintro ⟨a, ha⟩
    exact ⟨(field, a), mem_rows_iff.mpr ha, rfl⟩
  · rintro ⟨⟨_, a⟩, hm, rfl⟩
    exact ⟨a, mem_rows_iff.mp hm⟩

namespace Mapping

theorem quotable_of_reserved {column : Text} (h : column ∈ reservedColumns) : Quotable column := by
  have hreserved : ∀ column ∈ reservedColumns,
      column ≠ [] ∧ .char Token.backquote ∉ column ∧ .char ';' ∉ column := by
    decide
  exact hreserved column h

/-- The names in a row come from the statement, or are reserved. -/
theorem quotable_of_get? {s : Statement} (h : s.Expressible) {field : Text} {a : Alias}
    (ha : (ofStatement s).aliases.get? field = some a) : Quotable field ∧ Quotable a.name := by
  rw [get?_aliases_ofStatement] at ha
  split at ha
  next hreserved =>
    cases ha
    have hfield := quotable_of_reserved hreserved.2
    exact ⟨hfield, hfield⟩
  next =>
    rcases Option.or_eq_some_iff.mp ha with ha | ⟨-, ha⟩
    · obtain ⟨column, hcolumn, rfl⟩ := Option.map_eq_some_iff.mp ha
      exact h.fields (field, column) (mem_fields_of_column? hcolumn)
    · split at ha
      next hkey =>
        cases ha
        exact ⟨h.keys field hkey, h.keys field hkey⟩
      next => cases ha

theorem rows_ne_nil_of_fields {s : Statement} (h : s.fields ≠ []) :
    (ofStatement s).aliases.rows ≠ [] := by
  obtain ⟨⟨field, column⟩, hm⟩ := List.exists_mem_of_ne_nil _ h
  have hcolumn : s.column? field ≠ none := by
    rw [ne_eq, column?_eq_none_iff, not_not]
    exact List.mem_map_of_mem hm
  obtain ⟨column', hcolumn'⟩ := Option.ne_none_iff_exists'.mp hcolumn
  obtain ⟨a, ha⟩ : ∃ a, (ofStatement s).aliases.get? field = some a := by
    rw [get?_aliases_ofStatement, hcolumn']
    split
    · exact ⟨_, rfl⟩
    · exact ⟨_, rfl⟩
  exact List.ne_nil_of_mem (AliasTable.mem_rows_iff.mpr ha)

theorem wellFormed_ofStatement {s : Statement} (h : s.Expressible)
    (hrule : (ofStatement s).violation? = none) : (ofStatement s).WellFormed where
  table := h.target
  source := h.source
  selects := h.selects.imp_right rows_ne_nil_of_fields
  fields := fun _ hrow => (quotable_of_get? h (AliasTable.mem_rows_iff.mp hrow)).1
  columns := fun _ hrow => (quotable_of_get? h (AliasTable.mem_rows_iff.mp hrow)).2
  distinct := (ofStatement s).aliases.distinct
  ignored := h.ignored
  rule := by
    rintro ⟨hmode, hcreate, hm⟩
    have hdefault : (ofStatement s).hasDefaultKey = true := AliasTable.contains_iff.mpr hm
    rw [violation?, if_pos ⟨hmode, hcreate, hdefault⟩] at hrule
    cases hrule

theorem BuiltFrom.wellFormed {text : Text} {m : Mapping} (h : m.BuiltFrom text) :
    m.WellFormed := by
  obtain ⟨s, hs, rfl, hrule⟩ := h
  exact wellFormed_ofStatement (expressible_of_parse hs) hrule

theorem exists_builtFrom_of_mem {texts : List Text} {ms : List Mapping}
    (h : List.Forall₂ BuiltFrom texts ms) {m : Mapping} (hm : m ∈ ms) :
    ∃ text ∈ texts, m.BuiltFrom text := by
  induction h with
  | nil => cases hm
  | @cons text m' _ _ hfirst _ ih =>
    rcases List.mem_cons.mp hm with rfl | hm
    · exact ⟨text, List.mem_cons_self, hfirst⟩
    · obtain ⟨text', ht, hbuilt⟩ := ih hm
      exact ⟨text', List.mem_cons_of_mem _ ht, hbuilt⟩

end Mapping

/-! ## Settings -/

/-- Settings as they are made from a request. -/
structure Settings.WellFormed (s : Settings) : Prop where
  connection : s.connection ≠ []
  batchSize : 0 < s.batchSize
  retryDelay : 0 < s.retryDelay
  nonempty : s.mappings ≠ []
  mappings : ∀ m ∈ s.mappings, m.WellFormed

theorem SettingsRequest.wellFormed_of_fulfil {r : SettingsRequest} {s : Settings}
    (h : r.fulfil.result = .ok s) : s.WellFormed := by
  obtain ⟨ms, hms, hcomplete⟩ := exists_complete_of_fulfil_result h
  obtain ⟨policy, -, hconnection, hbatch, hdelay, rfl⟩ := complete_eq_ok_iff.mp hcomplete
  have hne : r.texts ≠ [] := meets_of_fulfil_result h .statements
  constructor
  case connection => exact hconnection
  case batchSize => exact hbatch
  case retryDelay => exact hdelay
  case nonempty =>
    rintro rfl
    rw [List.forall₂_nil_right_iff] at hms
    exact hne hms
  case mappings =>
    intro m hm
    obtain ⟨text, -, hbuilt⟩ := Mapping.exists_builtFrom_of_mem hms hm
    exact hbuilt.wellFormed

theorem Config.exists_fulfil_of_outcome {c : Config} {s : Settings}
    (h : c.run.outcome.result = .ok s) : ∃ r : SettingsRequest, r.fulfil.result = .ok s := by
  by_cases hc : c.Writable
  · rw [outcome_of_writable hc, settings] at h
    split at h
    next r _ => exact ⟨r, h⟩
    next => cases h
  · rw [outcome_of_not_writable hc] at h
    cases h

/-- **All settings are well formed**, whichever request or configuration they
come from. -/
theorem wellFormed_of_result (s : Settings) :
    (∀ r : SettingsRequest, r.fulfil.result = .ok s → s.WellFormed) ∧
    (∀ c : Config, c.run.outcome.result = .ok s → s.WellFormed) := by
  constructor
  · intro r h
    exact SettingsRequest.wellFormed_of_fulfil h
  · intro c h
    obtain ⟨r, hr⟩ := Config.exists_fulfil_of_outcome h
    exact SettingsRequest.wellFormed_of_fulfil hr

namespace Config

theorem wellFormed_addingSettings :
    (SettingsRequest.renamedRequest.fulfil.result = .ok SettingsRequest.renamedSettings ∧
      SettingsRequest.renamedSettings.WellFormed) ∧
    (connected.run.outcome.result = .ok addingSettings ∧ addingSettings.WellFormed) := by
  refine ⟨⟨SettingsRequest.fulfil_renamedRequest, ?_⟩, ⟨outcome_connected, ?_⟩⟩
  · exact (wellFormed_of_result _).1 _ SettingsRequest.fulfil_renamedRequest
  · exact (wellFormed_of_result _).2 _ outcome_connected

end Config

end TableSink
