/-
What is seen of equal values.

Mappings are equal where all their parts are and their tables answer alike for every
field (`Mapping.Agrees`), settings where all their parts are and their mappings agree in
order (`Settings.Agrees`). Whatever else is told of a mapping or of settings follows from
these parts, so equal values have the same hash, and every view of them is the same
(`equality_extensional`).
-/
import Mathlib.Data.List.Forall2
import TableSink.Proofs.Mapping.Reordering

namespace TableSink

open Text

/-! ## Equal mappings -/

/-- The hash adds up the rows, so they may come in any order. -/
instance : LawfulHashable AliasTable where
  hash_eq t u h := by
    have hrows : t.rows.Perm u.rows := AliasTable.beq_iff_perm.mp h
    have hcomm : RightCommutative fun (sum : UInt64) (row : AliasRow) => sum + hash row := by
      refine ⟨fun sum row row' => ?_⟩
      rw [UInt64.add_assoc, UInt64.add_comm (hash row), ← UInt64.add_assoc]
    show t.hashCode = u.hashCode
    exact hrows.foldl_eq 0

namespace Mapping

/-- Mappings with the same parts, whose tables answer alike for every field. -/
structure Agrees (m n : Mapping) : Prop where
  table : m.table = n.table
  source : m.source = n.source
  allFields : m.allFields = n.allFields
  mode : m.mode = n.mode
  columns : ∀ field, m.aliases.get? field = n.aliases.get? field
  autoCreate : m.autoCreate = n.autoCreate
  autoEvolve : m.autoEvolve = n.autoEvolve
  capitalize : m.capitalize = n.capitalize
  ignored : m.ignored = n.ignored

theorem beq_iff_agrees {m n : Mapping} : (m == n) = true ↔ m.Agrees n := by
  rw [beq_iff, AliasTable.beq_iff_get?]
  constructor
  · rintro ⟨htable, hsource, hall, hmode, hcolumns, hcreate, hevolve, hcapitalize, hignored⟩
    exact ⟨htable, hsource, hall, hmode, hcolumns, hcreate, hevolve, hcapitalize, hignored⟩
  · rintro ⟨htable, hsource, hall, hmode, hcolumns, hcreate, hevolve, hcapitalize, hignored⟩
    exact ⟨htable, hsource, hall, hmode, hcolumns, hcreate, hevolve, hcapitalize, hignored⟩

theorem Agrees.symm {m n : Mapping} (h : m.Agrees n) : n.Agrees m where
  table := h.table.symm
  source := h.source.symm
  allFields := h.allFields.symm
  mode := h.mode.symm
  columns field := (h.columns field).symm
  autoCreate := h.autoCreate.symm
  autoEvolve := h.autoEvolve.symm
  capitalize := h.capitalize.symm
  ignored := h.ignored.symm

theorem Agrees.trans {m n o : Mapping} (h : m.Agrees n) (h' : n.Agrees o) : m.Agrees o where
  table := h.table.trans h'.table
  source := h.source.trans h'.source
  allFields := h.allFields.trans h'.allFields
  mode := h.mode.trans h'.mode
  columns field := (h.columns field).trans (h'.columns field)
  autoCreate := h.autoCreate.trans h'.autoCreate
  autoEvolve := h.autoEvolve.trans h'.autoEvolve
  capitalize := h.capitalize.trans h'.capitalize
  ignored := h.ignored.trans h'.ignored

theorem equivalence_beq : Equivalence fun m n : Mapping => (m == n) = true where
  refl m := beq_self_eq_true m
  symm h := beq_iff_agrees.mpr (beq_iff_agrees.mp h).symm
  trans h h' := beq_iff_agrees.mpr ((beq_iff_agrees.mp h).trans (beq_iff_agrees.mp h'))

instance : LawfulHashable Mapping where
  hash_eq m n h := by
    obtain ⟨htable, hsource, hall, hmode, haliases, hcreate, hevolve, hcapitalize, hignored⟩ :=
      beq_iff.mp h
    show instHashableMapping.hash m = instHashableMapping.hash n
    simp only [instHashableMapping.hash]
    rw [htable, hsource, hall, hmode, hash_eq haliases, hcreate, hevolve, hcapitalize, hignored]

end Mapping

/-! ## Equal settings -/

theorem beq_list_iff {α : Type} [BEq α] {l l' : List α} :
    (l == l') = true ↔ List.Forall₂ (fun a b => (a == b) = true) l l' := by
  induction l generalizing l' with
  | nil => cases l' <;> simp
  | cons a l ih => cases l' <;> simp [ih]

theorem hash_list_eq {α : Type} [BEq α] [Hashable α] [LawfulHashable α] {l l' : List α}
    (h : List.Forall₂ (fun a b => (a == b) = true) l l') : hash l = hash l' := by
  have hfold (start : UInt64) : l.foldl (fun code a => mixHash code (hash a)) start =
      l'.foldl (fun code a => mixHash code (hash a)) start := by
    induction h generalizing start with
    | nil => rfl
    | cons hab _ ih => rw [List.foldl_cons, List.foldl_cons, hash_eq hab, ih]
  exact hfold 7

namespace Settings

/-- Settings with the same parts, whose mappings agree in order. -/
structure Agrees (s t : Settings) : Prop where
  connection : s.connection = t.connection
  user : s.user = t.user
  password : s.password = t.password
  mappings : List.Forall₂ Mapping.Agrees s.mappings t.mappings
  policy : s.policy = t.policy
  maxRetries : s.maxRetries = t.maxRetries
  batchSize : s.batchSize = t.batchSize
  retryDelay : s.retryDelay = t.retryDelay

theorem beq_iff_agrees {s t : Settings} : (s == t) = true ↔ s.Agrees t := by
  have hmappings : (s.mappings == t.mappings) = true ↔
      List.Forall₂ Mapping.Agrees s.mappings t.mappings := by
    simp only [beq_list_iff, Mapping.beq_iff_agrees]
  rw [beq_iff, hmappings]
  constructor
  · rintro ⟨hconnection, huser, hpassword, hmaps, hpolicy, hmax, hbatch, hdelay⟩
    exact ⟨hconnection, huser, hpassword, hmaps, hpolicy, hmax, hbatch, hdelay⟩
  · rintro ⟨hconnection, huser, hpassword, hmaps, hpolicy, hmax, hbatch, hdelay⟩
    exact ⟨hconnection, huser, hpassword, hmaps, hpolicy, hmax, hbatch, hdelay⟩

instance : LawfulHashable Settings where
  hash_eq s t h := by
    obtain ⟨hconnection, huser, hpassword, hmappings, hpolicy, hmax, hbatch, hdelay⟩ := beq_iff.mp h
    show instHashableSettings.hash s = instHashableSettings.hash t
    simp only [instHashableSettings.hash]
    rw [hconnection, huser, hpassword, hash_list_eq (beq_list_iff.mp hmappings), hpolicy, hmax,
      hbatch, hdelay]

theorem Agrees.tableNames_eq {s t : Settings} (h : s.Agrees t) : s.tableNames = t.tableNames := by
  have htables : s.mappings.map (·.table) = t.mappings.map (·.table) := by
    rw [← List.forall₂_eq_eq_eq, List.forall₂_map_left_iff, List.forall₂_map_right_iff]
    exact h.mappings.imp fun _ _ hagrees => hagrees.table
  unfold tableNames
  rw [htables]

end Settings

/-! ## Views -/

/-- **Equality says what is said.** Mappings are equal where they have the same parts and
answer alike for every field, and that is an equivalence; settings are, where they have the
same parts and their mappings agree in order. Equal values have the same hash, and nothing
that is told of them tells one from the other. -/
theorem equality_extensional :
    (∀ m n : Mapping, ((m == n) = true ↔ m.Agrees n) ∧
      ((m == n) = true → hash m = hash n ∧ m.keys = n.keys ∧
        m.hasDefaultKey = n.hasDefaultKey ∧ m.violation? = n.violation? ∧ m.text = n.text)) ∧
    Equivalence (fun m n : Mapping => (m == n) = true) ∧
    ∀ s t : Settings, ((s == t) = true ↔ s.Agrees t) ∧
      ((s == t) = true → hash s = hash t ∧ s.tableNames = t.tableNames) := by
  refine ⟨fun m n => ⟨Mapping.beq_iff_agrees, fun h => ?_⟩, Mapping.equivalence_beq,
    fun s t => ⟨Settings.beq_iff_agrees, fun h => ?_⟩⟩
  · exact ⟨hash_eq h, Mapping.keys_eq_of_beq h, Mapping.hasDefaultKey_eq_of_beq h,
      Mapping.violation?_eq_of_beq h, Mapping.text_eq_of_beq h⟩
  · exact ⟨hash_eq h, (Settings.beq_iff_agrees.mp h).tableNames_eq⟩

namespace Mapping

/-- A mapping whose first row is written over by its last. -/
def rewritten : Mapping where
  table := "t"
  source := "s"
  mode := .upsert
  aliases := .ofRows [("a", ⟨"b", true⟩), ("c", ⟨"c", true⟩), ("a", ⟨"d", false⟩)]
  autoCreate := true

/-- The same with the rows that count, in another order. -/
def settled : Mapping :=
  { rewritten with aliases := .ofRows [("c", ⟨"c", true⟩), ("a", ⟨"d", false⟩)] }

/-- Settings with one mapping and a password. -/
def guardedSettings (m : Mapping) : Settings where
  connection := "c"
  user := none
  password := some "p"
  mappings := [m]
  policy := .throw
  maxRetries := 10
  batchSize := 3000
  retryDelay := 60000

theorem equality_rewritten_settled :
    rewritten.aliases.rows ≠ settled.aliases.rows ∧
    ((rewritten == settled) = true ∧ hash rewritten = hash settled ∧
      rewritten.keys = settled.keys ∧ rewritten.hasDefaultKey = settled.hasDefaultKey ∧
      rewritten.violation? = settled.violation? ∧ rewritten.text = settled.text) ∧
    (guardedSettings rewritten == guardedSettings settled) = true ∧
    hash (guardedSettings rewritten) = hash (guardedSettings settled) ∧
    (guardedSettings rewritten).tableNames = (guardedSettings settled).tableNames := by
  obtain ⟨hmappings, -, hsettings⟩ := equality_extensional
  have hequal : (rewritten == settled) = true := by decide
  have hguarded : (guardedSettings rewritten == guardedSettings settled) = true := by decide
  exact ⟨by decide, ⟨hequal, (hmappings _ _).2 hequal⟩, hguarded, (hsettings _ _).2 hguarded⟩

end Mapping

end TableSink
