/-
What decides over a request.

A request is put to seven conditions, in an order (`Condition.all`). Where it
meets all of them there are settings. Otherwise the first that it does not meet
is reported, and what comes after it is not looked at
(`fulfil_result_eq_error_iff`). The parts of the settings are checked once more
when these are put together; since the conditions were met, that never fails.
-/
import TableSink.Proofs.Settings.Aggregation
import TableSink.Proofs.Text.LowerCase

namespace TableSink

open Text

/-! ## The first condition that is not met -/

/-- Of the conditions in a list, this is the first that is not met. -/
inductive FirstUnmet {κ : Type} (Meets : κ → Prop) : List κ → κ → Prop
  | here {k later} : ¬Meets k → FirstUnmet Meets (k :: later) k
  | later {j k rest} : Meets j → FirstUnmet Meets rest k → FirstUnmet Meets (j :: rest) k

theorem exists_firstUnmet {κ : Type} {Meets : κ → Prop} {order : List κ}
    (h : ¬∀ k ∈ order, Meets k) : ∃ k, FirstUnmet Meets order k := by
  induction order with
  | nil => exact absurd (fun _ hk => absurd hk List.not_mem_nil) h
  | cons j rest ih =>
    by_cases hj : Meets j
    · have hrest : ¬∀ k ∈ rest, Meets k := by
        intro hrest
        exact h (List.forall_mem_cons.mpr ⟨hj, hrest⟩)
      obtain ⟨k, hk⟩ := ih hrest
      exact ⟨k, .later hj hk⟩
    · exact ⟨j, .here hj⟩

@[simp]
theorem firstUnmet_cons {κ : Type} {Meets : κ → Prop} {j : κ} {rest : List κ} {k : κ} :
    FirstUnmet Meets (j :: rest) k ↔ ¬Meets j ∧ k = j ∨ Meets j ∧ FirstUnmet Meets rest k := by
  constructor
  · intro h
    cases h with
    | here hk => exact .inl ⟨hk, rfl⟩
    | later hj hrest => exact .inr ⟨hj, hrest⟩
  · rintro (⟨hk, rfl⟩ | ⟨hj, hrest⟩)
    · exact .here hk
    · exact .later hj hrest

@[simp]
theorem not_firstUnmet_nil {κ : Type} {Meets : κ → Prop} {k : κ} : ¬FirstUnmet Meets [] k :=
  nofun

/-! ## Policies -/

/-- The word names the policy: without the blanks around it, and in small
letters, it is the policy's. -/
def ErrorPolicy.IsNamedBy (p : ErrorPolicy) (word : Text) : Prop :=
  lower (strip word) = ofString p.word

theorem ErrorPolicy.isNamedBy_iff {p : ErrorPolicy} {word : Text} :
    p.IsNamedBy word ↔ (strip word).map (·.map Char.toLower) = ofString p.word := by
  have hletters : (p.word.toList.all fun x => x ∈ ownSmallLetters) = true := by
    cases p <;> decide
  refine lower_eq_iff (strip word) fun x hx => ?_
  exact of_decide_eq_true (List.all_eq_true.mp hletters x hx)

theorem ErrorPolicy.ofWord?_eq_some_iff {p : ErrorPolicy} {word : Text} :
    ofWord? word = some p ↔ p.IsNamedBy word := by
  rw [isNamedBy_iff, ofWord?]
  constructor
  · intro h
    have hp := List.find?_some h
    exact (beq_iff_eq.mp hp).symm
  · intro h
    rw [h]
    cases p <;> decide

theorem ErrorPolicy.ofWord?_eq_none_iff {word : Text} :
    ofWord? word = none ↔ ¬∃ p : ErrorPolicy, p.IsNamedBy word := by
  simp only [← ofWord?_eq_some_iff, Option.eq_none_iff_forall_ne_some, not_exists, ne_eq]

namespace SettingsRequest

/-! ## The conditions on a request -/

/-- The conditions that a request is put to. -/
inductive Condition where
  | mappings
  | statements
  | readable
  | policy
  | connection
  | batchSize
  | retryDelay

/-- The conditions, in the order in which they are checked. -/
def Condition.all : List Condition :=
  [.mappings, .statements, .readable, .policy, .connection, .batchSize, .retryDelay]

theorem Condition.mem_all (k : Condition) : k ∈ all := by
  cases k <;> simp [all]

/-- The statements in the text of a request. -/
def texts (r : SettingsRequest) : List Text :=
  Statement.segments (r.mappings.getD [])

/-- What each condition asks of a request. The number of tries may be any. -/
def Meets (r : SettingsRequest) : Condition → Prop
  | .mappings => ∃ text, r.mappings = some text ∧ text ≠ []
  | .statements => r.texts ≠ []
  | .readable => ∀ text ∈ r.texts, ∃ m, Mapping.BuiltFrom text m
  | .policy => ∃ p : ErrorPolicy, p.IsNamedBy (r.policy.getD [])
  | .connection => ∃ connection, r.connection = some connection ∧ connection ≠ []
  | .batchSize => 0 < r.batchSize
  | .retryDelay => 0 < r.retryDelay

/-- The error that reports a condition. Of statements, it is the first that is
refused. -/
inductive Reports (r : SettingsRequest) : Condition → SettingsError → Prop
  | mappings : Reports r .mappings (.config .noMappings)
  | statements : Reports r .statements (.config .noStatements)
  | readable {good bad rest ms log fault} : r.texts = good ++ bad :: rest →
      List.Forall₂ Mapping.BuiltFrom good ms → Mapping.Refused bad log fault →
      Reports r .readable (.config (.statement bad fault))
  | policy : Reports r .policy (.config (.policy r.policy))
  | connection : Reports r .connection (.config .noConnection)
  | batchSize : Reports r .batchSize (.outOfRange .batchSize r.batchSize)
  | retryDelay : Reports r .retryDelay (.outOfRange .retryDelay r.retryDelay)

theorem getD_nil_ne_nil_iff {text : Option Text} :
    text.getD [] ≠ [] ↔ ∃ s, text = some s ∧ s ≠ [] := by
  cases text <;> simp

theorem meets_readable_iff {r : SettingsRequest} :
    r.Meets .readable ↔ ∃ ms, List.Forall₂ Mapping.BuiltFrom r.texts ms := by
  rw [Meets]
  induction r.texts with
  | nil => simp
  | cons text texts ih =>
    rw [List.forall_mem_cons, ih]
    constructor
    · rintro ⟨⟨m, hm⟩, ms, hms⟩
      exact ⟨m :: ms, .cons hm hms⟩
    · rintro ⟨_, _ | ⟨hm, hms⟩⟩
      exact ⟨⟨_, hm⟩, _, hms⟩

/-! ## Requests that meet all of them -/

/-- A text with statements is not empty. -/
theorem meets_mappings_of_texts_ne_nil {r : SettingsRequest} (h : r.texts ≠ []) :
    r.Meets .mappings := by
  refine getD_nil_ne_nil_iff.mp fun hnil => h ?_
  rw [texts, hnil]
  rfl

/-- Statements that give mappings leave the rest of the request to decide. -/
theorem fulfil_result_of_builtFrom {r : SettingsRequest} {ms : List Mapping} (hne : r.texts ≠ [])
    (hms : List.Forall₂ Mapping.BuiltFrom r.texts ms) : r.fulfil.result = r.complete ms := by
  obtain ⟨text, htext, -⟩ := meets_mappings_of_texts_ne_nil hne
  have heq : r.texts = Statement.segments text := by rw [texts, htext, Option.getD_some]
  rw [heq] at hne hms
  rw [fulfil_of_segments htext hne, Mapping.collect_of_builtFrom hms]
  rfl

theorem parse_policy_of_named {r : SettingsRequest} (h : r.Meets .policy) :
    ∃ p : ErrorPolicy, p.IsNamedBy (r.policy.getD []) ∧ ErrorPolicy.parse r.policy = .ok p := by
  obtain ⟨p, hp⟩ := h
  refine ⟨p, hp, ?_⟩
  rw [ErrorPolicy.parse, ErrorPolicy.ofWord?_eq_some_iff.mpr hp]

theorem parse_policy_of_not_named {r : SettingsRequest} (h : ¬r.Meets .policy) :
    ErrorPolicy.parse r.policy = .error (.policy r.policy) := by
  rw [ErrorPolicy.parse, ErrorPolicy.ofWord?_eq_none_iff.mpr h]

/-! ## Requests that do not -/

/-- The rest of a request is refused for the first of its conditions that is not
met. -/
theorem complete_of_firstUnmet {r : SettingsRequest} {ms : List Mapping} {k : Condition}
    {e : SettingsError} (he : r.Reports k e)
    (h : FirstUnmet r.Meets [.policy, .connection, .batchSize, .retryDelay] k) :
    r.complete ms = .error e := by
  rw [complete]
  cases he with
  | mappings | statements | readable => simp at h
  | policy =>
    have hpolicy : ¬r.Meets .policy := by simpa using h
    rw [parse_policy_of_not_named hpolicy]
    rfl
  | connection =>
    obtain ⟨hpolicy, hunmet⟩ : r.Meets .policy ∧ ¬r.Meets .connection := by
      simpa using h
    obtain ⟨p, -, hp⟩ := parse_policy_of_named hpolicy
    have hnil : r.connection.getD [] = [] := by
      by_contra hne
      exact hunmet (getD_nil_ne_nil_iff.mp hne)
    rw [hp]
    exact Except.check_of_pos hnil
  | batchSize =>
    obtain ⟨hpolicy, hconnection, hunmet⟩ :
        r.Meets .policy ∧ r.Meets .connection ∧ ¬r.Meets .batchSize := by
      simpa using h
    obtain ⟨p, -, hp⟩ := parse_policy_of_named hpolicy
    have hne : r.connection.getD [] ≠ [] := getD_nil_ne_nil_iff.mpr hconnection
    rw [hp]
    refine (Except.check_of_neg hne).trans ?_
    exact Except.check_of_pos (Int.not_lt.mp hunmet)
  | retryDelay =>
    obtain ⟨hpolicy, hconnection, hbatch, hunmet⟩ :
        r.Meets .policy ∧ r.Meets .connection ∧ r.Meets .batchSize ∧ ¬r.Meets .retryDelay := by
      simpa using h
    obtain ⟨p, -, hp⟩ := parse_policy_of_named hpolicy
    have hne : r.connection.getD [] ≠ [] := getD_nil_ne_nil_iff.mpr hconnection
    rw [hp]
    refine (Except.check_of_neg hne).trans ?_
    refine (Except.check_of_neg (Int.not_le.mpr hbatch)).trans ?_
    exact Except.check_of_pos (Int.not_lt.mp hunmet)

/-- The error of the first condition that is not met is the result. -/
theorem fulfil_result_of_firstUnmet {r : SettingsRequest} {k : Condition} {e : SettingsError}
    (he : r.Reports k e) (h : FirstUnmet r.Meets Condition.all k) : r.fulfil.result = .error e := by
  rw [Condition.all] at h
  simp only [firstUnmet_cons] at h
  rcases h with ⟨hunmet, rfl⟩ | ⟨⟨text, htext, hne⟩, h⟩
  · cases he
    have hnil : r.mappings.getD [] = [] := by
      by_contra hne
      exact hunmet (getD_nil_ne_nil_iff.mp hne)
    rw [fulfil, hnil]
    rfl
  rcases h with ⟨hunmet, rfl⟩ | ⟨hstatements, h⟩
  · cases he
    have hnil : Statement.segments text = [] := by
      by_contra hne
      exact hunmet (by simpa [Meets, texts, htext] using hne)
    simp only [fulfil, htext, Option.getD_some, if_neg hne, hnil]
  rcases h with ⟨-, rfl⟩ | ⟨hreadable, h⟩
  · cases he with
    | readable hsplit hms hf =>
      have heq : r.texts = Statement.segments text := by rw [texts, htext, Option.getD_some]
      rw [heq] at hsplit
      rw [fulfil_of_first_refused htext hsplit hms hf]
  · obtain ⟨ms, hms⟩ := meets_readable_iff.mp hreadable
    rw [fulfil_result_of_builtFrom hstatements hms]
    exact complete_of_firstUnmet he (by simpa using h)

theorem exists_reports {r : SettingsRequest} {k : Condition}
    (h : FirstUnmet r.Meets Condition.all k) : ∃ e, r.Reports k e := by
  cases k with
  | mappings => exact ⟨_, .mappings⟩
  | statements => exact ⟨_, .statements⟩
  | readable =>
    have hunmet : ¬r.Meets .readable := by
      have hall := by simpa [Condition.all] using h
      exact hall.2.2
    rw [meets_readable_iff] at hunmet
    obtain ⟨good, bad, rest, ms, log, fault, hsplit, hms, hf⟩ :=
      (Mapping.builtFrom_or_first_refused r.texts).resolve_left hunmet
    exact ⟨_, .readable hsplit hms hf⟩
  | policy => exact ⟨_, .policy⟩
  | connection => exact ⟨_, .connection⟩
  | batchSize => exact ⟨_, .batchSize⟩
  | retryDelay => exact ⟨_, .retryDelay⟩

/-- A request that meets every condition is fulfilled as it stands. -/
theorem fulfil_result_of_meets {r : SettingsRequest} (h : ∀ k, r.Meets k) :
    ∃ s, r.fulfil.result = .ok s := by
  obtain ⟨ms, hms⟩ := meets_readable_iff.mp (h .readable)
  obtain ⟨p, -, hp⟩ := parse_policy_of_named (h .policy)
  have hne : r.connection.getD [] ≠ [] := getD_nil_ne_nil_iff.mpr (h .connection)
  obtain ⟨s, hs⟩ : ∃ s, r.complete ms = .ok s :=
    ⟨_, complete_eq_ok_iff.mpr ⟨p, hp, hne, h .batchSize, h .retryDelay, rfl⟩⟩
  rw [fulfil_result_of_builtFrom (h .statements) hms]
  exact ⟨s, hs⟩

theorem meets_of_fulfil_result {r : SettingsRequest} {s : Settings} (h : r.fulfil.result = .ok s)
    (k : Condition) : r.Meets k := by
  have hall : ∀ k ∈ Condition.all, r.Meets k := by
    by_contra hunmet
    obtain ⟨j, hj⟩ := exists_firstUnmet hunmet
    obtain ⟨e, he⟩ := exists_reports hj
    rw [fulfil_result_of_firstUnmet he hj] at h
    cases h
  exact hall k k.mem_all

theorem fulfil_result_eq_error_iff {r : SettingsRequest} {e : SettingsError} :
    r.fulfil.result = .error e ↔ ∃ k, FirstUnmet r.Meets Condition.all k ∧ r.Reports k e := by
  constructor
  · intro h
    have hunmet : ¬∀ k ∈ Condition.all, r.Meets k := by
      intro hall
      obtain ⟨s, hs⟩ := fulfil_result_of_meets fun k => hall k k.mem_all
      rw [h] at hs
      cases hs
    obtain ⟨k, hk⟩ := exists_firstUnmet hunmet
    obtain ⟨e', he'⟩ := exists_reports hk
    have heq := fulfil_result_of_firstUnmet he' hk
    rw [h] at heq
    cases heq
    exact ⟨k, hk, he'⟩
  · rintro ⟨k, hk, he⟩
    exact fulfil_result_of_firstUnmet he hk

/-- The mappings of settings are those of the statements, and the rest is what
was asked for. -/
theorem exists_complete_of_fulfil_result {r : SettingsRequest} {s : Settings}
    (h : r.fulfil.result = .ok s) :
    ∃ ms, List.Forall₂ Mapping.BuiltFrom r.texts ms ∧ r.complete ms = .ok s := by
  obtain ⟨ms, hms⟩ := meets_readable_iff.mp (meets_of_fulfil_result h .readable)
  rw [fulfil_result_of_builtFrom (meets_of_fulfil_result h .statements) hms] at h
  exact ⟨ms, hms, h⟩

/-- A request fails for its configuration, unless it has to show a number that is
too long. The parts of the settings are never refused. -/
theorem Reports.config_or_longInteger {r : SettingsRequest} {k : Condition} {e : SettingsError}
    (h : r.Reports k e) : (∃ fault, e = .config fault) ∨
      e = .longInteger ∧ (isLong r.batchSize = true ∨ isLong r.retryDelay = true) := by
  cases h with
  | mappings | statements | readable | policy | connection => exact .inl ⟨_, rfl⟩
  | batchSize =>
    rw [SettingsError.outOfRange]
    split
    next hlong => exact .inr ⟨rfl, .inl hlong⟩
    next => exact .inl ⟨_, rfl⟩
  | retryDelay =>
    rw [SettingsError.outOfRange]
    split
    next hlong => exact .inr ⟨rfl, .inr hlong⟩
    next => exact .inl ⟨_, rfl⟩

end SettingsRequest

end TableSink
