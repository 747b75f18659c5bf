/-
When settings are equal.

Settings are compared part by part (`Settings.beq_iff`), and so are mappings
(`Mapping.beq_iff`). Of a table of columns only the order of the rows does not
count (`AliasTable.beq_iff_perm`).
-/
import TableSink.Proofs.Mapping.Keys
import TableSink.Settings.Basic
import Mathlib.Data.List.Nodup
import Mathlib.Data.List.Perm.Subperm

namespace TableSink

namespace AliasTable

theorem nodup_rows (t : AliasTable) : t.rows.Nodup :=
  t.distinct.of_map _

theorem beq_iff_perm {t u : AliasTable} : (t == u) = true ↔ t.rows.Perm u.rows := by
  show same t u = true ↔ t.rows.Perm u.rows
  simp only [same, size, Bool.and_eq_true, beq_iff_eq, List.all_eq_true]
  constructor
  · rintro ⟨hsize, hrows⟩
    have hsub : t.rows ⊆ u.rows := fun row hrow => mem_rows_iff.mpr (hrows row hrow)
    exact (List.subperm_of_subset t.nodup_rows hsub).perm_of_length_le (Nat.le_of_eq hsize.symm)
  · intro h
    exact ⟨h.length_eq, fun row hrow => mem_rows_iff.mp (h.mem_iff.mp hrow)⟩

instance : ReflBEq AliasTable :=
  ⟨beq_iff_perm.mpr (.refl _)⟩

end AliasTable

theorem Mapping.beq_iff {m n : Mapping} : (m == n) = true ↔
    m.table = n.table ∧ m.source = n.source ∧ m.allFields = n.allFields ∧ m.mode = n.mode ∧
    (m.aliases == n.aliases) = true ∧ m.autoCreate = n.autoCreate ∧
    m.autoEvolve = n.autoEvolve ∧ m.capitalize = n.capitalize ∧ m.ignored = n.ignored := by
  show instBEqMapping.beq m n = true ↔ _
  cases m
  cases n
  simp only [instBEqMapping.beq, Bool.and_eq_true, beq_iff_eq]

instance : ReflBEq Mapping :=
  ⟨Mapping.beq_iff.mpr ⟨rfl, rfl, rfl, rfl, beq_self_eq_true _, rfl, rfl, rfl, rfl⟩⟩

theorem Settings.beq_iff {s t : Settings} : (s == t) = true ↔
    s.connection = t.connection ∧ s.user = t.user ∧ s.password = t.password ∧
    (s.mappings == t.mappings) = true ∧ s.policy = t.policy ∧ s.maxRetries = t.maxRetries ∧
    s.batchSize = t.batchSize ∧ s.retryDelay = t.retryDelay := by
  show instBEqSettings.beq s t = true ↔ _
  cases s
  cases t
  simp only [instBEqSettings.beq, Bool.and_eq_true, beq_iff_eq]

end TableSink
