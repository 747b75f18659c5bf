/-
Which statements break the rule on keys.

The rule is meant for statements that write by key to a table that is created,
and declare no key: then the reserved columns stand in for it. It is checked on
the mapping, by the reserved column for the part of the stream. So a statement
that itself declares or selects this column breaks the rule too, also where it
has a clause for keys (`hasDefaultKey_ofStatement_iff`).
-/
import TableSink.Proofs.Mapping.Keys
import TableSink.Proofs.Statement.Writing

namespace TableSink

open Text Grammar

/-! ## The clause for keys -/

namespace Grammar

theorem NameList.not_spells {ts : List Token} {names : List Text} (h : NameList ts names)
    (k : Keyword) : ∀ t ∈ ts, ¬t.Spells k := by
  induction h with
  | one hn => simpa using hn.not_spells k
  | cons hn _ ih =>
    simp only [List.mem_cons, forall_eq_or_imp]
    exact ⟨hn.not_spells k, fun hk => hk.ne_comma rfl, ih⟩

theorem NameList.ne_nil {ts : List Token} {names : List Text} (h : NameList ts names) :
    names ≠ [] := by
  cases h <;> simp

/-- The only keyword of a select list is AS. -/
theorem ItemList.not_spells {ts : List Token} {items : List SelectItem} (h : ItemList ts items)
    {k : Keyword} (hk : k ≠ .as) : ∀ t ∈ ts, ¬t.Spells k := by
  have hitem {ts : List Token} {item : SelectItem} (h : Item ts item) : ∀ t ∈ ts, ¬t.Spells k := by
    cases h with
    | all =>
      simp only [List.mem_singleton, forall_eq]
      rintro ⟨w, hw, -⟩
      cases hw
    | field hn => simpa using hn.not_spells k
    | renamed hn has hu =>
      simp only [List.mem_cons, List.not_mem_nil, or_false, forall_eq_or_imp, forall_eq]
      exact ⟨hn.not_spells k, fun h => hk (h.unique has), hu.not_spells k⟩
  induction h with
  | one hi => exact hitem hi
  | cons hi _ ih =>
    intro t ht
    rcases List.mem_append.mp ht with ht | ht
    · exact hitem hi t ht
    · rcases List.mem_cons.mp ht with rfl | ht
      · exact fun h => h.ne_comma rfl
      · exact ih t ht

/-- PK stands in a clause where it is the clause for keys. -/
theorem ClauseOf.spells_pk_iff {ts : List Token} {c : Clause} (h : ClauseOf ts c) :
    (∃ t ∈ ts, t.Spells .pk) ↔ ∃ names, c = .keys names := by
  cases h with
  | keys ht hn => simp [ht]
  | @ignored t _ _ ht hn =>
    have hopen : ¬t.Spells .pk := fun h => by cases ht.unique h
    simpa using ⟨hopen, hn.not_spells .pk⟩
  | autoCreate ht | autoEvolve ht | capitalize ht | capitalizeNames ht =>
    simpa using fun h => by cases ht.unique h

theorem ClauseList.spells_pk_iff {ts : List Token} {clauses : List Clause}
    (h : ClauseList ts clauses) :
    (∃ t ∈ ts, t.Spells .pk) ↔ ∃ names, .keys names ∈ clauses := by
  induction h with
  | nil => simp
  | cons hc _ ih =>
    simp only [List.mem_append, List.mem_cons, or_and_right, exists_or, hc.spells_pk_iff, ih,
      eq_comm]

/-- A statement declares keys where PK stands in it. -/
theorem Derives.keys_eq_nil_iff {ts : List Token} {s : Statement} (h : Derives ts s) :
    s.keys = [] ↔ ∀ t ∈ ts, ¬t.Spells .pk := by
  obtain @⟨verb, into, table, select, from', stream, itemTokens, clauseTokens, mode, target,
    source, items, clauses, _, hmode, hverb, hinto, htable, hselect, hitems, hn, hfrom, hstream,
    hclauses, hd, hs⟩ := h
  have hclause : (∀ t ∈ clauseTokens, ¬t.Spells .pk) ↔ ∀ names, .keys names ∉ clauses := by
    simpa using not_congr hclauses.spells_pk_iff
  have hkeys : s.keys = [] ↔ ∀ names, .keys names ∉ clauses := by
    rcases hs.keys with hmem | ⟨hnil, hnone⟩
    · obtain ⟨used, -, hu⟩ := Statement.exists_clause_of_mem hclauses hmem
      cases hu with
      | keys _ hnames => exact ⟨fun hnil => absurd hnil hnames.ne_nil, fun h => absurd hmem (h _)⟩
    · exact ⟨fun _ => hnone, fun _ => hnil⟩
  rw [hkeys, ← hclause]
  refine ⟨fun hnone t ht => ?_, fun hnone t ht => hnone t (by simp [ht])⟩
  simp only [List.mem_cons, List.mem_append] at ht
  rcases ht with rfl | rfl | rfl | rfl | ht | rfl | rfl | ht
  · rcases hmode with rfl | rfl <;> exact fun h => by cases hverb.unique h
  · exact fun h => by cases hinto.unique h
  · exact htable.not_spells .pk
  · exact fun h => by cases hselect.unique h
  · exact hitems.not_spells (by decide) t ht
  · exact fun h => by cases hfrom.unique h
  · exact hstream.not_spells .pk
  · exact hnone t ht

end Grammar

/-! ## The rule -/

/-- The statement speaks of the field itself, as a key or in its select list. -/
def Statement.Mentions (s : Statement) (field : Text) : Prop :=
  field ∈ s.keys ∨ field ∈ s.fields.map (·.1)

namespace Mapping

theorem hasDefaultKey_ofStatement_iff {s : Statement} :
    (ofStatement s).hasDefaultKey = true ↔ s.NeedsDefaultKey ∨ s.Mentions partitionColumn := by
  have hreserved : ofString partitionColumn ∈ reservedColumns := by simp [reservedColumns]
  rw [hasDefaultKey, AliasTable.contains, get?_aliases_ofStatement, Statement.Mentions]
  by_cases hneeds : s.NeedsDefaultKey
  · simp [hneeds, hreserved]
  · have hcolumn : (s.column? partitionColumn).isSome = true ↔
        ofString partitionColumn ∈ s.fields.map (·.1) := by
      rw [← not_iff_not, ← Statement.column?_eq_none_iff]
      simp
    by_cases hkey : ofString partitionColumn ∈ s.keys
    · simp [hneeds, hkey]
    · simpa [hneeds, hkey] using hcolumn

theorem violation?_eq_some_iff {m : Mapping} {v : Violation} :
    m.violation? = some v ↔
      (m.mode = .upsert ∧ m.autoCreate = true ∧ m.hasDefaultKey = true) ∧ v = ⟨m.table, m.source⟩ := by
  rw [violation?]
  split
  next h => simp [h, eq_comm]
  next h => simp [h]

theorem mode_ofStatement_iff {s : Statement} (h : s.Expressible) :
    (ofStatement s).mode = .upsert ↔ s.mode = "UPSERT" := by
  rcases h.mode with hm | hm
  · simp only [ofStatement, hm]
    decide
  · simp only [ofStatement, hm]
    decide

/-- **Who breaks the rule.** A statement that is read breaks the rule on keys
where it writes by key to a table that is created, and has no clause for keys
or speaks of the reserved column for the part of the stream. -/
theorem violation?_eq_some_iff_of_parse {text : Text} {ts : List Token} {s : Statement}
    (hscan : Token.scan text = .ok ts) (h : Statement.parse text = .ok s) (v : Violation) :
    (ofStatement s).violation? = some v ↔
      (s.mode = "UPSERT" ∧ s.autoCreate = true ∧
        ((∀ t ∈ ts, ¬t.Spells .pk) ∨ s.Mentions partitionColumn)) ∧ v = ⟨s.target, s.source⟩ := by
  have hpk : s.keys = [] ↔ ∀ t ∈ ts, ¬t.Spells .pk := by
    obtain ⟨-, ts', hscan', hts⟩ := Statement.parse_eq_ok_iff.mp h
    cases hscan.symm.trans hscan'
    exact (Statement.ofTokens_eq_ok_iff.mp hts).keys_eq_nil_iff
  rw [violation?_eq_some_iff, mode_ofStatement_iff (Statement.expressible_of_parse h),
    hasDefaultKey_ofStatement_iff, Statement.NeedsDefaultKey, hpk]
  refine and_congr_left' ⟨?_, ?_⟩
  · rintro ⟨hmode, hcreate, hkey⟩
    exact ⟨hmode, hcreate, hkey.imp_left (·.2)⟩
  · rintro ⟨hmode, hcreate, hkey⟩
    exact ⟨hmode, hcreate, hkey.imp_left fun hnone => ⟨hcreate, hnone⟩⟩

/-- A statement that declares a key and selects the reserved column. -/
def reserving : Statement where
  target := "t"
  source := "s"
  selectsAll := false
  fields := [(partitionColumn, partitionColumn)]
  keys := ["id"]
  mode := "UPSERT"
  autoCreate := true

/-- The text of this statement. -/
def reservingText : Text :=
  "UPSERT INTO t SELECT __connect_partition FROM s PK id AUTOCREATE"

/-- The tokens of this text. -/
def reservingTokens : List Token :=
  [.word "UPSERT", .word "INTO", .word "t", .word "SELECT", .word partitionColumn, .word "FROM",
    .word "s", .word "PK", .word "id", .word "AUTOCREATE"]

theorem scan_reservingText : Token.scan reservingText = .ok reservingTokens := by
  with_unfolding_all rfl

theorem parse_reservingText : Statement.parse reservingText = .ok reserving := by
  with_unfolding_all rfl

theorem violation?_reserving :
    Token.scan reservingText = .ok reservingTokens ∧ Statement.parse reservingText = .ok reserving ∧
    (ofStatement reserving).violation? = some ⟨"t", "s"⟩ := by
  have hmentions : reserving.Mentions partitionColumn := .inr (List.mem_singleton_self _)
  have hbreaks : reserving.mode = "UPSERT" ∧ reserving.autoCreate = true ∧
      ((∀ t ∈ reservingTokens, ¬t.Spells .pk) ∨ reserving.Mentions partitionColumn) :=
    ⟨rfl, rfl, .inr hmentions⟩
  exact ⟨scan_reservingText, parse_reservingText,
    (violation?_eq_some_iff_of_parse scan_reservingText parse_reservingText _).mpr ⟨hbreaks, rfl⟩⟩

/-- A clause for keys does not keep a statement from breaking the rule. -/
theorem not_forall_violation_iff_no_pk :
    ¬∀ (text : Text) (ts : List Token) (s : Statement),
      Token.scan text = .ok ts → Statement.parse text = .ok s →
      ((∃ v, (ofStatement s).violation? = some v) ↔
        s.mode = "UPSERT" ∧ s.autoCreate = true ∧ ∀ t ∈ ts, ¬t.Spells .pk) := by
  intro h
  have hviolation : (ofStatement reserving).violation? = some ⟨"t", "s"⟩ := by
    with_unfolding_all rfl
  obtain ⟨-, -, hnone⟩ := (h _ _ _ scan_reservingText parse_reservingText).mp ⟨_, hviolation⟩
  exact hnone (.word "PK") (by decide) ⟨"PK", rfl, by decide⟩

end Mapping

end TableSink
