/-
The request that a configuration makes.

Five values are taken as texts, where a null stands for none, and after them
three as integers (`requestWith`). So a configuration comes to what its request
comes to (`outcome_of_integers`), unless a value stands in the way: one that is
no integer (`outcome_of_not_integer`), or one that has to be written and cannot
be (`outcome_of_not_writable`).
-/
import TableSink.Proofs.Config.Effective
import TableSink.Proofs.Settings.Conditions

namespace TableSink

open Text

/-- The text that a value is taken as. A null is none. -/
def Value.asText? : Value → Option Text
  | .null => none
  | v => some v.toText

namespace Config

/-! ## Values as texts -/

/-- The keys whose values are taken as texts, in the order in which they are
taken. -/
def Key.texts : List Key :=
  [.mappings, .connection, .user, .password, .errorPolicy]

/-- What has to be written of a configuration can be: the keys that are not
read, and the values that are taken as texts. -/
structure Writable (c : Config) : Prop where
  strange : ∀ k ∈ c.strangeKeys, k.isWritable = true
  texts : ∀ key ∈ Key.texts, (c.value key).isWritable = true

theorem text?_of_writable {c : Config} {key : Key} (h : (c.value key).isWritable = true) :
    c.text? key = .ok (c.value key).asText? := by
  rw [text?]
  split
  next hv =>
    rw [hv]
    rfl
  next hv =>
    rw [if_pos h, Value.asText?]
    exact fun hnull => hv hnull

theorem text?_of_not_writable {c : Config} {key : Key} (h : ¬(c.value key).isWritable = true) :
    c.text? key = .error .longInteger := by
  rw [text?]
  split
  next hv =>
    rw [hv] at h
    exact absurd rfl h
  next => rw [if_neg h]

/-! ## Values as integers -/

/-- The keys whose values are taken as integers, in the order in which they are
taken. -/
def Key.integers : List Key :=
  [.maxRetries, .batchSize, .retryDelay]

/-- The value that holds for the key stands for an integer. -/
def HoldsInteger (c : Config) (key : Key) : Prop :=
  ∃ n, (c.value key).toInt? = some n

theorem int_of_toInt? {c : Config} {key : Key} {n : Int} (h : (c.value key).toInt? = some n) :
    c.int key = .ok n := by
  simp only [int, h]

/-- The error about a value that stands for no integer. It shows the value. -/
def notInteger (c : Config) (key : Key) : SettingsError :=
  if (c.value key).isWritable then .config (.notInteger key (c.value key)) else .longInteger

theorem int_of_not_holdsInteger {c : Config} {key : Key} (h : ¬c.HoldsInteger key) :
    c.int key = .error (c.notInteger key) := by
  have hnone : (c.value key).toInt? = none := by
    rw [Option.eq_none_iff_forall_ne_some]
    exact fun n hn => h ⟨n, hn⟩
  simp only [int, hnone, notInteger]

/-! ## Requests -/

/-- The request with the texts of a configuration and the given integers. An
error policy that is none is the empty word. -/
def requestWith (c : Config) (maxRetries batchSize retryDelay : Int) : SettingsRequest where
  mappings := (c.value .mappings).asText?
  connection := (c.value .connection).asText?
  user := (c.value .user).asText?
  password := (c.value .password).asText?
  policy := some ((c.value .errorPolicy).asText?.getD [])
  maxRetries := maxRetries
  batchSize := batchSize
  retryDelay := retryDelay

theorem request_of_texts {c : Config} (h : ∀ key ∈ Key.texts, (c.value key).isWritable = true) :
    c.request = (do
      let maxRetries ← c.int .maxRetries
      let batchSize ← c.int .batchSize
      let retryDelay ← c.int .retryDelay
      return c.requestWith maxRetries batchSize retryDelay) := by
  have htext (key : Key) (hkey : key ∈ Key.texts) : c.text? key = .ok (c.value key).asText? :=
    text?_of_writable (h key hkey)
  rw [request, htext .mappings (by decide), htext .connection (by decide), htext .user (by decide),
    htext .password (by decide), htext .errorPolicy (by decide)]
  rfl

theorem request_of_integers {c : Config} (h : ∀ key ∈ Key.texts, (c.value key).isWritable = true)
    {maxRetries batchSize retryDelay : Int}
    (hmax : (c.value .maxRetries).toInt? = some maxRetries)
    (hbatch : (c.value .batchSize).toInt? = some batchSize)
    (hdelay : (c.value .retryDelay).toInt? = some retryDelay) :
    c.request = .ok (c.requestWith maxRetries batchSize retryDelay) := by
  rw [request_of_texts h, int_of_toInt? hmax, int_of_toInt? hbatch, int_of_toInt? hdelay]
  rfl

/-- The first value that is no integer is reported. -/
theorem request_of_not_integer {c : Config}
    (h : ∀ key ∈ Key.texts, (c.value key).isWritable = true) {key : Key}
    (hkey : FirstUnmet c.HoldsInteger Key.integers key) :
    c.request = .error (c.notInteger key) := by
  rw [request_of_texts h]
  simp only [Key.integers, firstUnmet_cons, not_firstUnmet_nil, and_false, or_false] at hkey
  rcases hkey with ⟨hmax, rfl⟩ | ⟨⟨m, hmax⟩, ⟨hbatch, rfl⟩ | ⟨⟨b, hbatch⟩, hdelay, rfl⟩⟩
  · rw [int_of_not_holdsInteger hmax]
    rfl
  · rw [int_of_toInt? hmax, int_of_not_holdsInteger hbatch]
    rfl
  · rw [int_of_toInt? hmax, int_of_toInt? hbatch, int_of_not_holdsInteger hdelay]
    rfl

/-- A value that is taken as a text and cannot be written ends the reading. -/
theorem request_of_not_writable {c : Config}
    (h : ¬∀ key ∈ Key.texts, (c.value key).isWritable = true) :
    c.request = .error .longInteger := by
  obtain ⟨key, hkey⟩ := exists_firstUnmet h
  simp only [Key.texts, firstUnmet_cons, not_firstUnmet_nil, and_false, or_false] at hkey
  rw [request]
  rcases hkey with ⟨h1, -⟩ | ⟨h1, ⟨h2, -⟩ | ⟨h2, ⟨h3, -⟩ | ⟨h3, ⟨h4, -⟩ | ⟨h4, h5, -⟩⟩⟩⟩
  · rw [text?_of_not_writable h1]
    rfl
  · rw [text?_of_writable h1, text?_of_not_writable h2]
    rfl
  · rw [text?_of_writable h1, text?_of_writable h2, text?_of_not_writable h3]
    rfl
  · rw [text?_of_writable h1, text?_of_writable h2, text?_of_writable h3, text?_of_not_writable h4]
    rfl
  · rw [text?_of_writable h1, text?_of_writable h2, text?_of_writable h3, text?_of_writable h4,
      text?_of_not_writable h5]
    rfl

/-! ## Outcomes -/

theorem outcome_of_writable {c : Config} (h : c.Writable) : c.run.outcome = c.settings := by
  rw [run_of_writable h.strange]

theorem outcome_of_integers {c : Config} (h : c.Writable) {maxRetries batchSize retryDelay : Int}
    (hmax : (c.value .maxRetries).toInt? = some maxRetries)
    (hbatch : (c.value .batchSize).toInt? = some batchSize)
    (hdelay : (c.value .retryDelay).toInt? = some retryDelay) :
    c.run.outcome = (c.requestWith maxRetries batchSize retryDelay).fulfil := by
  rw [outcome_of_writable h, settings, request_of_integers h.texts hmax hbatch hdelay]

theorem outcome_of_not_integer {c : Config} (h : c.Writable) {key : Key}
    (hkey : FirstUnmet c.HoldsInteger Key.integers key) :
    c.run.outcome = ⟨[], .error (c.notInteger key)⟩ := by
  rw [outcome_of_writable h, settings, request_of_not_integer h.texts hkey]

theorem run_of_strange_not_writable {c : Config}
    (h : ¬∀ k ∈ c.strangeKeys, k.isWritable = true) : c.run = ⟨[], ⟨[], .error .longInteger⟩⟩ := by
  obtain ⟨k, hk⟩ := Classical.not_forall.mp h
  obtain ⟨hk, hwrite⟩ := Classical.not_imp.mp hk
  exact run_of_not_writable hk (Bool.eq_false_iff.mpr hwrite)

theorem outcome_of_not_writable {c : Config} (h : ¬c.Writable) :
    c.run.outcome = ⟨[], .error .longInteger⟩ := by
  by_cases hstrange : ∀ k ∈ c.strangeKeys, k.isWritable = true
  · have htexts : ¬∀ key ∈ Key.texts, (c.value key).isWritable = true := by
      intro htexts
      exact h ⟨hstrange, htexts⟩
    rw [run_of_writable hstrange, settings, request_of_not_writable htexts]
  · rw [run_of_strange_not_writable hstrange]

end Config

/-! ## What decides -/

/-- **The first condition that is not met decides.** A request comes to settings
where it meets every condition, and they carry what it asks for; otherwise the
first condition that it does not meet is reported, whatever the later ones are.
A configuration comes to what its request comes to, if it holds integers where
they are needed; the first value that is none is reported before everything
else. Only an integer that is too long to be written makes another error. -/
theorem decided_by_first_unmet (r : SettingsRequest) (c : Config) :
    (((∃ s, r.fulfil.result = .ok s) ↔ ∀ k, r.Meets k) ∧
      (∀ e, r.fulfil.result = .error e ↔
        ∃ k, FirstUnmet r.Meets SettingsRequest.Condition.all k ∧ r.Reports k e) ∧
      (∀ e, r.fulfil.result = .error e → (∃ fault, e = .config fault) ∨
        e = .longInteger ∧ (isLong r.batchSize = true ∨ isLong r.retryDelay = true)) ∧
      (∀ s, r.fulfil.result = .ok s →
        r.connection = some s.connection ∧ s.user = r.user ∧ s.password = r.password ∧
        s.maxRetries = r.maxRetries ∧ s.batchSize = r.batchSize ∧ s.retryDelay = r.retryDelay)) ∧
    (c.Writable →
      (∀ maxRetries batchSize retryDelay : Int,
        (c.value .maxRetries).toInt? = some maxRetries →
        (c.value .batchSize).toInt? = some batchSize →
        (c.value .retryDelay).toInt? = some retryDelay →
        c.run.outcome = (c.requestWith maxRetries batchSize retryDelay).fulfil) ∧
      (∀ key, FirstUnmet c.HoldsInteger Config.Key.integers key →
        c.run.outcome = ⟨[], .error (c.notInteger key)⟩)) ∧
    (¬c.Writable → c.run.outcome = ⟨[], .error .longInteger⟩) := by
  refine ⟨⟨⟨?_, SettingsRequest.fulfil_result_of_meets⟩, ?_, ?_, ?_⟩, ?_, ?_⟩
  · rintro ⟨s, hs⟩
    exact SettingsRequest.meets_of_fulfil_result hs
  · intro e
    exact SettingsRequest.fulfil_result_eq_error_iff
  · intro e he
    obtain ⟨k, -, hreports⟩ := SettingsRequest.fulfil_result_eq_error_iff.mp he
    exact hreports.config_or_longInteger
  · intro s hs
    obtain ⟨connection, hconnection, -⟩ := SettingsRequest.meets_of_fulfil_result hs .connection
    obtain ⟨ms, -, hcomplete⟩ := SettingsRequest.exists_complete_of_fulfil_result hs
    obtain ⟨policy, -, -, -, -, rfl⟩ := SettingsRequest.complete_eq_ok_iff.mp hcomplete
    refine ⟨?_, rfl, rfl, rfl, rfl, rfl⟩
    rw [hconnection, Option.getD_some]
  · intro hc
    refine ⟨fun _ _ _ hmax hbatch hdelay => ?_, fun key hkey => ?_⟩
    · exact Config.outcome_of_integers hc hmax hbatch hdelay
    · exact Config.outcome_of_not_integer hc hkey
  · intro hc
    exact Config.outcome_of_not_writable hc

namespace SettingsRequest

theorem texts_addingText {r : SettingsRequest} (h : r.mappings = some addingText) :
    r.texts = [addingText] := by
  rw [texts, h]
  with_unfolding_all rfl

theorem meets_of_addingText {r : SettingsRequest} (h : r.mappings = some addingText) :
    r.Meets .mappings ∧ r.Meets .statements ∧ r.Meets .readable := by
  have htexts := texts_addingText h
  refine ⟨⟨addingText, h, by decide⟩, ?_, ?_⟩
  · rw [Meets, htexts]
    exact List.cons_ne_nil _ _
  · rw [Meets, htexts]
    exact List.forall_mem_singleton.mpr ⟨_, builtFrom_addingText⟩

/-- A request with three mistakes: no policy has this name, there is no
connection, and no records are written at once. -/
def faulty : SettingsRequest where
  mappings := some addingText
  connection := none
  policy := some "never"
  batchSize := 0

theorem firstUnmet_faulty : FirstUnmet faulty.Meets Condition.all .policy := by
  obtain ⟨hmappings, hstatements, hreadable⟩ := meets_of_addingText (r := faulty) rfl
  have hpolicy : ¬faulty.Meets .policy := by
    refine ErrorPolicy.ofWord?_eq_none_iff.mp ?_
    with_unfolding_all rfl
  exact .later hmappings (.later hstatements (.later hreadable (.here hpolicy)))

end SettingsRequest

namespace Config

theorem writable_connected : connected.Writable := by
  refine ⟨by simp [strangeKeys_connected], fun key hkey => ?_⟩
  rw [value_connected]
  simp only [Key.texts, List.mem_cons, List.not_mem_nil, or_false] at hkey
  rcases hkey with rfl | rfl | rfl | rfl | rfl <;> rfl

/-- The settings of a statement that adds rows. -/
def addingSettings : Settings where
  connection := "c"
  user := none
  password := none
  mappings := [.ofStatement SettingsRequest.adding]
  policy := .throw
  maxRetries := 10
  batchSize := 3000
  retryDelay := 60000

theorem outcome_connected : connected.run.outcome.result = .ok addingSettings := by
  rw [outcome_of_writable writable_connected, settings, request_connected]
  with_unfolding_all rfl

/-- A configuration with a number of records that is no number. -/
def wordy : Config where
  rows := (.text Key.batchSize.name, .text "many") :: connected.rows

theorem value_wordy (key : Key) :
    wordy.value key = if key = .batchSize then .text "many" else connected.value key := by
  rw [wordy, value_cons_text]

theorem writable_wordy : wordy.Writable := by
  refine ⟨fun k hk => ?_, fun key hkey => ?_⟩
  · obtain ⟨hm, hne⟩ := mem_strangeKeys_iff.mp hk
    rcases List.mem_cons.mp hm with rfl | hm
    · exact absurd rfl (hne .batchSize)
    · exact writable_connected.strange k (mem_strangeKeys_iff.mpr ⟨hm, hne⟩)
  · rw [value_wordy]
    split
    · rfl
    · exact writable_connected.texts key hkey

theorem firstUnmet_wordy : FirstUnmet wordy.HoldsInteger Key.integers .batchSize := by
  have hmax : wordy.HoldsInteger .maxRetries := by
    refine ⟨10, ?_⟩
    rw [value_wordy, value_connected]
    rfl
  have hbatch : ¬wordy.HoldsInteger .batchSize := by
    rintro ⟨n, hn⟩
    rw [value_wordy] at hn
    revert hn
    with_unfolding_all nofun
  exact .later hmax (.here hbatch)

theorem not_writable_overlong : ¬overlong.Writable := by
  intro h
  have hstrange : .int leastLong ∈ overlong.strangeKeys :=
    mem_strangeKeys_iff.mpr ⟨List.mem_cons_self, nofun⟩
  have hwrite := h.strange _ hstrange
  rw [Value.isWritable_leastLong] at hwrite
  cases hwrite

theorem decided_of_faulty :
    (FirstUnmet SettingsRequest.faulty.Meets SettingsRequest.Condition.all .policy ∧
      SettingsRequest.faulty.fulfil.result = .error (.config (.policy (some "never")))) ∧
    (SettingsRequest.renamedRequest.fulfil.result = .ok SettingsRequest.renamedSettings ∧
      SettingsRequest.renamedRequest.connection = some SettingsRequest.renamedSettings.connection) ∧
    (connected.Writable ∧ connected.run.outcome = (connected.requestWith 10 3000 60000).fulfil) ∧
    (wordy.Writable ∧ FirstUnmet wordy.HoldsInteger Key.integers .batchSize ∧
      wordy.run.outcome = ⟨[], .error (wordy.notInteger .batchSize)⟩) ∧
    (¬overlong.Writable ∧ overlong.run.outcome = ⟨[], .error .longInteger⟩) := by
  obtain ⟨hfaulty, hconnected, -⟩ := decided_by_first_unmet SettingsRequest.faulty connected
  obtain ⟨hrenamed, hwordy, -⟩ := decided_by_first_unmet SettingsRequest.renamedRequest wordy
  obtain ⟨-, -, hoverlong⟩ := decided_by_first_unmet SettingsRequest.faulty overlong
  refine ⟨⟨SettingsRequest.firstUnmet_faulty, ?_⟩, ⟨SettingsRequest.fulfil_renamedRequest, ?_⟩,
    ⟨writable_connected, ?_⟩, ⟨writable_wordy, firstUnmet_wordy, ?_⟩, ⟨not_writable_overlong, ?_⟩⟩
  · exact (hfaulty.2.1 _).mpr ⟨.policy, SettingsRequest.firstUnmet_faulty, .policy⟩
  · exact (hrenamed.2.2.2 _ SettingsRequest.fulfil_renamedRequest).1
  · refine (hconnected writable_connected).1 10 3000 60000 ?_ ?_ ?_
    · rw [value_connected]
      rfl
    · rw [value_connected]
      rfl
    · rw [value_connected]
      rfl
  · exact (hwordy writable_wordy).2 .batchSize firstUnmet_wordy
  · exact hoverlong not_writable_overlong

end Config

namespace SettingsRequest

/-- A request for fewer records at once than can be written. -/
def deficient : SettingsRequest where
  mappings := some addingText
  connection := some "c"
  batchSize := -leastLong

theorem fulfil_deficient : deficient.fulfil.result = .error .longInteger := by
  obtain ⟨hmappings, hstatements, hreadable⟩ := meets_of_addingText (r := deficient) rfl
  have hpolicy : deficient.Meets .policy := by
    refine ⟨.throw, ErrorPolicy.ofWord?_eq_some_iff.mp ?_⟩
    with_unfolding_all rfl
  have hconnection : deficient.Meets .connection := ⟨"c", rfl, by decide⟩
  have hbatch : ¬deficient.Meets .batchSize :=
    Int.not_lt.mpr (Int.neg_nonpos_of_nonneg (Int.natCast_nonneg leastLong))
  have hlong : isLong deficient.batchSize = true := by
    rw [deficient, isLong, Int.natAbs_neg, Int.natAbs_natCast]
    exact decide_eq_true (Nat.le_refl leastLong)
  have hresult := fulfil_result_of_firstUnmet .batchSize
    (.later hmappings (.later hstatements (.later hreadable (.later hpolicy
      (.later hconnection (.here hbatch))))))
  rw [hresult, SettingsError.outOfRange, if_pos hlong]

/-- A request can fail for another reason than its configuration. -/
theorem not_forall_ok_or_config :
    ¬∀ r : SettingsRequest, (∃ s, r.fulfil.result = .ok s) ∨
      ∃ fault, r.fulfil.result = .error (.config fault) := by
  intro h
  rcases h deficient with ⟨s, hs⟩ | ⟨fault, hs⟩
  · rw [fulfil_deficient] at hs
    cases hs
  · rw [fulfil_deficient] at hs
    cases hs

end SettingsRequest

end TableSink
