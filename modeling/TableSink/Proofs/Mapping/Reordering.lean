/-
Parts of a statement whose order does not count.

The keys of a statement are a set: their order does not count, nor how often one is
declared. Of the select list only the order of the entries for one field counts, since
the last of them gives the field its column. Statements that differ in nothing else
have equal mappings (`ofStatement_reordered`). Their rows may stand in another order,
but whatever is told of a mapping is sorted, or asks for single rows: equal mappings
have the same keys, break the same rule and are written the same way.
-/
import TableSink.Proofs.Mapping.Marks
import TableSink.Proofs.Settings.Equality

namespace TableSink

open Text

/-! ## Equal tables -/

namespace AliasTable

/-- Tables are equal where they answer alike for every field. -/
theorem beq_iff_get? {t u : AliasTable} :
    (t == u) = true ↔ ∀ field, t.get? field = u.get? field := by
  rw [beq_iff_perm]
  constructor
  · intro h field
    refine Option.ext fun a => ?_
    rw [← mem_rows_iff, ← mem_rows_iff]
    exact h.mem_iff
  · intro h
    refine (List.perm_ext_iff_of_nodup t.nodup_rows u.nodup_rows).mpr fun row => ?_
    rw [mem_rows_iff, mem_rows_iff, h]

theorem perm_sortedRows (t : AliasTable) : t.sortedRows.Perm t.rows :=
  List.mergeSort_perm _ _

theorem pairwise_sortedRows (t : AliasTable) :
    t.sortedRows.Pairwise fun row row' => le row.1 row'.1 = true := by
  apply List.pairwise_mergeSort
  · intro row row' row''
    exact le_trans
  · intro row row'
    simpa using le_total row.1 row'.1

/-- No two rows have one field, so there is one order of the rows by their fields. -/
theorem sortedRows_eq_of_beq {t u : AliasTable} (h : (t == u) = true) :
    t.sortedRows = u.sortedRows := by
  have hrows : t.rows.Perm u.rows := beq_iff_perm.mp h
  have hperm : t.sortedRows.Perm u.sortedRows :=
    t.perm_sortedRows.trans (hrows.trans u.perm_sortedRows.symm)
  refine hperm.eq_of_pairwise ?_ t.pairwise_sortedRows u.pairwise_sortedRows
  intro row row' hrow hrow' hle hle'
  have hfield : row.1 = row'.1 := le_antisymm hle hle'
  have hmem : row ∈ t.rows := t.perm_sortedRows.mem_iff.mp hrow
  have hmem' : row' ∈ t.rows := hrows.mem_iff.mpr (u.perm_sortedRows.mem_iff.mp hrow')
  have hcolumn := mem_rows_iff.mp hmem
  rw [hfield, mem_rows_iff.mp hmem'] at hcolumn
  exact Prod.ext hfield (Option.some.inj hcolumn).symm

end AliasTable

/-! ## Equal mappings -/

namespace Mapping

variable {m n : Mapping}

theorem get?_eq_of_beq (h : (m == n) = true) (field : Text) :
    m.aliases.get? field = n.aliases.get? field := by
  obtain ⟨-, -, -, -, haliases, -⟩ := beq_iff.mp h
  exact AliasTable.beq_iff_get?.mp haliases field

/-- Sorted lists without repetition are the same where they have the same members. -/
theorem keys_eq_of_beq (h : (m == n) = true) : m.keys = n.keys := by
  have hmem (key : Text) : key ∈ m.keys ↔ key ∈ n.keys := by
    simp only [mem_keys_iff, get?_eq_of_beq h]
  have hnodup (m : Mapping) : m.keys.Nodup := (perm_sort _).nodup_iff.mpr (nodup_eraseDups _)
  have hperm : m.keys.Perm n.keys :=
    (List.perm_ext_iff_of_nodup (hnodup m) (hnodup n)).mpr hmem
  exact hperm.eq_of_pairwise (fun _ _ _ _ => le_antisymm) (pairwise_sort _) (pairwise_sort _)

theorem hasDefaultKey_eq_of_beq (h : (m == n) = true) : m.hasDefaultKey = n.hasDefaultKey := by
  unfold hasDefaultKey AliasTable.contains
  rw [get?_eq_of_beq h]

theorem violation?_eq_of_beq (h : (m == n) = true) : m.violation? = n.violation? := by
  have hdefault := hasDefaultKey_eq_of_beq h
  obtain ⟨htable, hsource, -, hmode, -, hcreate, -⟩ := beq_iff.mp h
  unfold violation?
  rw [htable, hsource, hmode, hcreate, hdefault]

theorem text_eq_of_beq (h : (m == n) = true) : m.text = n.text := by
  obtain ⟨htable, hsource, hall, hmode, haliases, hcreate, hevolve, hcapitalize, hignored⟩ :=
    beq_iff.mp h
  unfold text
  rw [htable, hsource, hall, hmode, hcreate, hevolve, hcapitalize, hignored,
    AliasTable.sortedRows_eq_of_beq haliases]

end Mapping

/-! ## Reordered statements -/

namespace Statement

/-- Two statements differ in the order of their keys and in how often they declare them,
and in the order of the select list, where the entries for one field keep theirs. -/
structure Reorders (s s' : Statement) : Prop where
  target : s.target = s'.target
  source : s.source = s'.source
  selectsAll : s.selectsAll = s'.selectsAll
  mode : s.mode = s'.mode
  autoCreate : s.autoCreate = s'.autoCreate
  autoEvolve : s.autoEvolve = s'.autoEvolve
  capitalize : s.capitalize = s'.capitalize
  ignored : s.ignored = s'.ignored
  keys : ∀ key, key ∈ s.keys ↔ key ∈ s'.keys
  fields : s.fields.Perm s'.fields
  entries : ∀ field, s.fields.filter (·.1 = field) = s'.fields.filter (·.1 = field)

/-- The column of a field is read off the entries for this field. -/
theorem column?_eq_getLast? (s : Statement) (field : Text) :
    s.column? field = ((s.fields.filter (·.1 = field)).getLast?).map (·.2) := by
  have hlookup (rows : List (Text × Text)) :
      rows.lookup field = ((rows.filter (·.1 = field)).head?).map (·.2) := by
    induction rows with
    | nil => rfl
    | cons row rows ih =>
      rw [List.lookup_cons, List.filter_cons]
      by_cases hrow : row.1 = field
      · simp [hrow]
      · have hb : (field == row.1) = false := beq_eq_false_iff_ne.mpr fun h => hrow h.symm
        simp [hrow, hb, ih]
  rw [column?, hlookup, List.filter_reverse, List.head?_reverse]

variable {s s' : Statement}

theorem Reorders.column? (h : s.Reorders s') (field : Text) :
    s.column? field = s'.column? field := by
  rw [column?_eq_getLast?, column?_eq_getLast?, h.entries]

theorem Reorders.needsDefaultKey_iff (h : s.Reorders s') :
    s.NeedsDefaultKey ↔ s'.NeedsDefaultKey := by
  unfold NeedsDefaultKey
  rw [h.autoCreate, List.eq_nil_iff_forall_not_mem, List.eq_nil_iff_forall_not_mem]
  simp only [h.keys]

end Statement

namespace Mapping

variable {s s' : Statement}

theorem get?_reordered (h : s.Reorders s') (field : Text) :
    (ofStatement s).aliases.get? field = (ofStatement s').aliases.get? field := by
  have hcontains (column : Text) : s.keys.contains column = s'.keys.contains column := by
    rw [List.contains_eq_mem, List.contains_eq_mem]
    exact decide_eq_decide.mpr (h.keys column)
  rw [get?_aliases_ofStatement, get?_aliases_ofStatement]
  simp only [h.needsDefaultKey_iff, h.column?, hcontains, h.keys]

theorem beq_reordered (h : s.Reorders s') : (ofStatement s == ofStatement s') = true := by
  refine beq_iff.mpr ⟨h.target, h.source, h.selectsAll, ?_, ?_, h.autoCreate, h.autoEvolve,
    h.capitalize, h.ignored⟩
  · exact congrArg WriteMode.ofWord h.mode
  · exact AliasTable.beq_iff_get?.mpr (get?_reordered h)

/-- **The order of independent parts does not count.** Statements that differ in nothing
else have equal mappings, which are written and announced the same way, have the same
keys and break the same rule. -/
theorem ofStatement_reordered (h : s.Reorders s') :
    (ofStatement s == ofStatement s') = true ∧
    (ofStatement s).text = (ofStatement s').text ∧
    (ofStatement s).announcement = (ofStatement s').announcement ∧
    (ofStatement s).keys = (ofStatement s').keys ∧
    (ofStatement s).violation? = (ofStatement s').violation? := by
  have hequal : (ofStatement s == ofStatement s') = true := beq_reordered h
  have htext := text_eq_of_beq hequal
  refine ⟨hequal, htext, ?_, keys_eq_of_beq hequal, violation?_eq_of_beq hequal⟩
  unfold announcement
  rw [htext]

/-- UPSERT INTO t SELECT x AS p, y AS b, x AS a FROM s PK b, a, b AUTOCREATE -/
def scattered : Statement :=
  { target := "t", source := "s", selectsAll := false, mode := "UPSERT", autoCreate := true,
    fields := [("x", "p"), ("y", "b"), ("x", "a")], keys := ["b", "a", "b"] }

/-- The same with its keys once each, and the entries for one field side by side. -/
def gathered : Statement :=
  { scattered with fields := [("y", "b"), ("x", "p"), ("x", "a")], keys := ["a", "b"] }

/-- The rows of the tables stand in different orders. -/
theorem ofStatement_reordered_gathered :
    (ofStatement scattered).aliases.rows ≠ (ofStatement gathered).aliases.rows ∧
    (ofStatement scattered == ofStatement gathered) = true ∧
    (ofStatement scattered).text = (ofStatement gathered).text ∧
    (ofStatement scattered).announcement = (ofStatement gathered).announcement ∧
    (ofStatement scattered).keys = (ofStatement gathered).keys ∧
    (ofStatement scattered).violation? = (ofStatement gathered).violation? := by
  refine ⟨by decide, ofStatement_reordered ?_⟩
  refine ⟨rfl, rfl, rfl, rfl, rfl, rfl, rfl, rfl, ?_, by decide, ?_⟩
  · intro key
    simp [scattered, gathered]
    tauto
  · intro field
    have hne : ofString "x" ≠ ofString "y" := by decide
    simp only [scattered, gathered, List.filter_cons, List.filter_nil]
    by_cases hy : ofString "y" = field
    · subst hy
      simp [hne]
    · simp [hy]

end Mapping

end TableSink
