/-
The mappings that settings are made of.

The statements of a request are taken one after the other, so settings have
one mapping for each statement of their text, in order
(`collect_result_eq_ok_iff`), and the rest of the request does not touch them.
What the mapping of a statement is like is therefore true of every mapping in
settings.
-/
import TableSink.Settings.Collect
import TableSink.Proofs.Except
import TableSink.Proofs.Mapping.Keys
import Mathlib.Data.List.Forall2

namespace TableSink

/-- The mapping is that of the statement, and keeps to the rule. -/
def Mapping.BuiltFrom (text : Text) (m : Mapping) : Prop :=
  ∃ s, Statement.parse text = .ok s ∧ m = ofStatement s ∧ m.violation? = none

/-- Statements give mappings where each of them gives one that keeps to the
rule, in their order. -/
theorem Mapping.collect_result_eq_ok_iff {texts : List Text} {ms : List Mapping} :
    (collect texts).result = .ok ms ↔ List.Forall₂ BuiltFrom texts ms := by
  induction texts generalizing ms with
  | nil => simp [collect, eq_comm]
  | cons text texts ih =>
    rw [collect, List.forall₂_cons_left_iff]
    constructor
    · intro h
      split at h
      · cases h
      next s hs =>
        simp only at h
        split at h
        · cases h
        next hv =>
          obtain ⟨rest, hrest, rfl⟩ := Except.map_eq_ok_iff.mp h
          exact ⟨ofStatement s, rest, ⟨s, hs, rfl, hv⟩, ih.mp hrest, rfl⟩
    · rintro ⟨m, rest, ⟨s, hs, rfl, hv⟩, hrest, rfl⟩
      simp only [hs, hv]
      exact Except.map_eq_ok_iff.mpr ⟨rest, ih.mpr hrest, rfl⟩

theorem Settings.create_eq_ok_iff {connection user password : Option Text} {ms : List Mapping}
    {policy : ErrorPolicy} {maxRetries batchSize retryDelay : Int} {s : Settings} :
    create connection user password ms policy maxRetries batchSize retryDelay = .ok s ↔
      connection.getD [] ≠ [] ∧ 0 < retryDelay ∧ 0 < batchSize ∧
      s = { connection := connection.getD [], user, password, mappings := ms, policy, maxRetries,
            batchSize, retryDelay } := by
  simp only [create]
  split
  next h => simp [h]
  next h =>
    split
    next hd => simp; omega
    next hd =>
      split
      next hb => simp; omega
      next hb =>
        constructor
        · intro hs
          cases hs
          exact ⟨h, by omega, by omega, rfl⟩
        · rintro ⟨-, -, -, rfl⟩
          rfl

namespace SettingsRequest

/-- The rest of a request is completed where it passes every check, and leaves
the mappings as they are. -/
theorem complete_eq_ok_iff {r : SettingsRequest} {ms : List Mapping} {s : Settings} :
    r.complete ms = .ok s ↔ ∃ policy, ErrorPolicy.parse r.policy = .ok policy ∧
      r.connection.getD [] ≠ [] ∧ 0 < r.batchSize ∧ 0 < r.retryDelay ∧
      s = { connection := r.connection.getD [], user := r.user, password := r.password,
            mappings := ms, policy, maxRetries := r.maxRetries, batchSize := r.batchSize,
            retryDelay := r.retryDelay } := by
  simp only [complete, Except.bind_eq_ok_iff, Except.check_eq_ok_iff, Except.mapError_eq_ok_iff,
    Settings.create_eq_ok_iff]
  constructor
  · rintro ⟨policy, hp, hc, hb, hd, -, -, -, rfl⟩
    exact ⟨policy, hp, hc, by omega, by omega, rfl⟩
  · rintro ⟨policy, hp, hc, hb, hd, rfl⟩
    exact ⟨policy, hp, hc, by omega, by omega, hc, hd, hb, rfl⟩

/-- Settings have a mapping for each statement of their text. -/
theorem builtFrom_of_fulfil {r : SettingsRequest} {s : Settings} (h : r.fulfil.result = .ok s) :
    List.Forall₂ Mapping.BuiltFrom (Statement.segments (r.mappings.getD [])) s.mappings := by
  simp only [fulfil] at h
  split at h
  · cases h
  split at h
  · cases h
  · obtain ⟨ms, hms, hs⟩ := Except.bind_eq_ok_iff.mp h
    obtain ⟨policy, -, -, -, -, rfl⟩ := complete_eq_ok_iff.mp hs
    exact Mapping.collect_result_eq_ok_iff.mp hms

end SettingsRequest

/-! ## Keys -/

/-- A mapping has the keys of its statement: where it writes by key to a table
that is created, keys are declared, and it has one of them unless each is
selected under another name and no field is selected under it. -/
def Mapping.KeyedBy (text : Text) (m : Mapping) : Prop :=
  ∃ s, Statement.parse text = .ok s ∧ m = ofStatement s ∧
    (m.mode = .upsert → m.autoCreate = true →
      s.keys ≠ [] ∧ (m.keys ≠ [] ↔ ∃ key ∈ s.keys, s.Keeps key))

theorem Mapping.BuiltFrom.keyedBy {text : Text} {m : Mapping} (h : m.BuiltFrom text) :
    m.KeyedBy text := by
  obtain ⟨s, hs, rfl, hv⟩ := h
  refine ⟨s, hs, rfl, fun hmode hcreate => ?_⟩
  have hne : s.keys ≠ [] := keys_ne_nil_of_violation? hv hmode hcreate
  exact ⟨hne, keys_ofStatement_ne_nil hne⟩

namespace SettingsRequest

/-- **The keys of settings.** The mappings in settings have the keys of their
statements. -/
theorem keyedBy_of_fulfil {r : SettingsRequest} {s : Settings} (h : r.fulfil.result = .ok s) :
    List.Forall₂ Mapping.KeyedBy (Statement.segments (r.mappings.getD [])) s.mappings :=
  (builtFrom_of_fulfil h).imp fun _ _ hm => hm.keyedBy

/-- A statement that selects its key under another name. -/
def renamed : Statement where
  target := "t"
  source := "s"
  selectsAll := false
  fields := [("a", "b")]
  keys := ["a"]
  mode := "UPSERT"
  autoCreate := true

/-- The request with this statement. -/
def renamedRequest : SettingsRequest where
  mappings := some "UPSERT INTO t SELECT a AS b FROM s PK a AUTOCREATE"
  connection := some "c"

/-- The settings of this request. -/
def renamedSettings : Settings where
  connection := "c"
  user := none
  password := none
  mappings := [.ofStatement renamed]
  policy := .throw
  maxRetries := 10
  batchSize := 3000
  retryDelay := 60000

theorem fulfil_renamedRequest : renamedRequest.fulfil.result = .ok renamedSettings := by
  with_unfolding_all rfl

theorem keyedBy_renamedRequest :
    renamedRequest.fulfil.result = .ok renamedSettings ∧
    List.Forall₂ Mapping.KeyedBy
      (Statement.segments (renamedRequest.mappings.getD [])) renamedSettings.mappings :=
  ⟨fulfil_renamedRequest, keyedBy_of_fulfil fulfil_renamedRequest⟩

/-- A mapping that writes by key to a table that is created can be without a
key. -/
theorem not_forall_keys_ne_nil :
    ¬∀ (r : SettingsRequest) (s : Settings), r.fulfil.result = .ok s →
      ∀ m ∈ s.mappings, m.mode = .upsert → m.autoCreate = true → m.keys ≠ [] := by
  intro h
  have hkeys : (Mapping.ofStatement renamed).keys ≠ [] :=
    h _ _ fulfil_renamedRequest _ (List.mem_singleton_self _) (by decide) rfl
  obtain ⟨key, hm, hkeep⟩ := (Mapping.keys_ofStatement_ne_nil (by decide)).mp hkeys
  obtain rfl := List.mem_singleton.mp hm
  obtain hnone | ⟨field, hsome⟩ := hkeep
  · cases hnone
  · simp only [Statement.column?, renamed, List.reverse_singleton, List.lookup_cons] at hsome
    split at hsome
    · exact absurd hsome (by decide)
    · cases hsome

end SettingsRequest

end TableSink
