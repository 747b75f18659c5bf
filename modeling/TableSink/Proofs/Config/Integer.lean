/-
Integers in configurations.

A value is taken as an integer where it is one, and where it is a text that spells one. About
a value of any other kind the error shows the value, if the value can be written
(`int_reads_spelled`). So an integer may as well stand there as a text with blanks around it:
nothing that a run comes to tells the two apart (`run_of_spelled`).
-/
import TableSink.Proofs.Config.Request
import TableSink.Proofs.Value.Integer

namespace TableSink

open Text Number

namespace Config

variable {c d : Config} {key : Key} {n : Int}

/-! ## Values that are read -/

theorem int_eq_ok_iff : c.int key = .ok n ↔ (c.value key).toInt? = some n := by
  rw [int]
  cases (c.value key).toInt? with
  | none => simp
  | some m => simp

theorem holdsInteger_iff : c.HoldsInteger key ↔
    (∃ n, c.value key = .int n) ∨ ∃ s n, c.value key = .text s ∧ Spells s n := by
  simp only [HoldsInteger, Value.toInt?_eq_some_iff]
  constructor
  · rintro ⟨n, h | ⟨s, h⟩⟩
    · exact .inl ⟨n, h⟩
    · exact .inr ⟨s, n, h⟩
  · rintro (⟨n, h⟩ | ⟨s, n, h⟩)
    · exact ⟨n, .inl h⟩
    · exact ⟨n, .inr ⟨s, h⟩⟩

/-- Runs with the same texts and the same integers are the same. -/
theorem run_of_same_readings (hstrange : c.strangeKeys = d.strangeKeys)
    (htexts : ∀ key ∈ Key.texts, c.value key = d.value key)
    (hintegers : ∀ key ∈ Key.integers, c.int key = d.int key) : c.run = d.run := by
  have htext (key : Key) (hkey : key ∈ Key.texts) : c.text? key = d.text? key := by
    rw [text?, text?, htexts key hkey]
  have hrequest : c.request = d.request := by
    rw [request, request, htext .mappings (by decide), htext .connection (by decide),
      htext .user (by decide), htext .password (by decide), htext .errorPolicy (by decide),
      hintegers .maxRetries (by decide), hintegers .batchSize (by decide),
      hintegers .retryDelay (by decide)]
  rw [run, run, unknownKeys, unknownKeys, hstrange, settings, settings, hrequest]

/-! ## Integers as texts -/

theorem value_append (before rows : List (Value × Value)) (key : Key) :
    value ⟨before ++ rows⟩ key = (before.lookup (.text key.name)).getD (value ⟨rows⟩ key) := by
  rw [value, value, List.lookup_append, Option.getD_or]

theorem strangeKeys_eq_of_keys {rows rows' : List (Value × Value)}
    (h : rows.map (·.1) = rows'.map (·.1)) : strangeKeys ⟨rows⟩ = strangeKeys ⟨rows'⟩ := by
  rw [strangeKeys, strangeKeys, h]

/-- An integer and a text that spells it are read alike. -/
theorem run_of_spelled {before after : List (Value × Value)} {s : Text}
    (hkey : key ∈ Key.integers) (hs : Spells s n) :
    run ⟨before ++ (.text key.name, .text s) :: after⟩ =
      run ⟨before ++ (.text key.name, .int n) :: after⟩ := by
  refine run_of_same_readings (strangeKeys_eq_of_keys ?_) ?_ ?_
  · simp only [List.map_append, List.map_cons]
  · intro key' hkey'
    have hne : key' ≠ key := by
      rintro rfl
      revert hkey hkey'
      cases key' <;> decide
    rw [value_append, value_append, value_cons_text, value_cons_text, if_neg hne, if_neg hne]
  · intro key' _
    simp only [int, value_append, value_cons_text]
    cases before.lookup (.text key'.name) with
    | some v => rfl
    | none =>
      by_cases heq : key' = key
      · have htext : (Value.text s).toInt? = (Value.int n).toInt? := readInt?_eq_some_iff.mpr hs
        simp only [Option.getD_none, if_pos heq, htext]
        rfl
      · simp only [if_neg heq]

/-- **A number is read where one is spelled.** A value is read as an integer where it is the
integer or a text that spells it, and the error about any other value shows the value, unless
it holds an integer that is too long to be written. So for every value that can be written
it is enough to read its text. A run does not tell an integer from its text, whichever blanks
stand around it. -/
theorem int_reads_spelled (c : Config) (key : Key) :
    (∀ n, c.int key = .ok n ↔
      c.value key = .int n ∨ ∃ s, c.value key = .text s ∧ Spells s n) ∧
    ((∀ n, c.value key ≠ .int n) → (∀ s n, c.value key = .text s → ¬Spells s n) →
      ((c.value key).isWritable = true → ∃ fault : ConfigError,
        c.int key = .error (.config fault) ∧
        fault.message = key.name ++ " must be an integer, got " ++ (c.value key).literal) ∧
      ((c.value key).isWritable = false → c.int key = .error .longInteger)) ∧
    ((c.value key).isWritable = true → ∀ n, c.int key = .ok n ↔ Spells (c.value key).toText n) ∧
    (key ∈ Key.integers → ∀ (before after : List (Value × Value)) (left right : Text) (n : Int),
      isBlankText left = true → isBlankText right = true → isLong n = false →
      run ⟨before ++ (.text key.name, .text (left ++ ofInt n ++ right)) :: after⟩ =
        run ⟨before ++ (.text key.name, .int n) :: after⟩) := by
  refine ⟨fun n => ?_, fun hint htext => ?_, fun hwrite n => ?_, fun hkey => ?_⟩
  · rw [int_eq_ok_iff]
    exact Value.toInt?_eq_some_iff
  · have hnone : ¬c.HoldsInteger key := by
      rw [holdsInteger_iff]
      rintro (⟨n, h⟩ | ⟨s, n, h, hs⟩)
      · exact hint n h
      · exact htext s n h hs
    rw [int_of_not_holdsInteger hnone, notInteger]
    refine ⟨fun hwrite => ?_, fun hwrite => ?_⟩
    · rw [if_pos hwrite]
      exact ⟨_, rfl, rfl⟩
    · rw [hwrite]
      rfl
  · rw [int_eq_ok_iff]
    exact (Value.spells_toText_iff hwrite).symm
  · intro before after left right n hleft hright hshort
    exact run_of_spelled hkey ((spells_ofInt hshort).append hleft hright)

/-- A configuration with a list for the number of records, and in it an integer that is too
long to be written. -/
def crowded : Config where
  rows := (.text Key.batchSize.name, .list [.int leastLong]) :: connected.rows

theorem value_crowded : crowded.value .batchSize = .list [.int leastLong] := by
  rw [crowded, value_cons_text, if_pos rfl]

theorem not_writable_crowded : (crowded.value .batchSize).isWritable = false := by
  rw [value_crowded, Value.isWritable, Value.allWritable, Value.isWritable_leastLong,
    Bool.false_and]

theorem value_wordy_batchSize : wordy.value .batchSize = .text "many" := by
  rw [value_wordy, if_pos rfl]

theorem not_spells_many {n : Int} : ¬Spells "many" n :=
  not_spells_of_mem (c := 'm') List.mem_cons_self (by decide)

theorem literal_many : (Value.text "many").literal = "'many'" := by
  rw [Value.literal]
  decide +kernel

theorem int_reads_many :
    ((wordy.value .batchSize).isWritable = true ∧
      (∃ fault : ConfigError, wordy.int .batchSize = .error (.config fault) ∧
        fault.message = "connect.jdbc.sink.batch.size" ++ " must be an integer, got " ++ "'many'") ∧
      ∀ n, wordy.int .batchSize = .ok n ↔ Spells "many" n) ∧
    ((crowded.value .batchSize).isWritable = false ∧
      crowded.int .batchSize = .error .longInteger) ∧
    run ⟨(.text Key.batchSize.name, .text (" " ++ ofInt 7 ++ "\n")) :: connected.rows⟩ =
      run ⟨(.text Key.batchSize.name, .int 7) :: connected.rows⟩ := by
  obtain ⟨-, hwordy, htext, hrun⟩ := int_reads_spelled wordy .batchSize
  obtain ⟨-, hcrowded, -⟩ := int_reads_spelled crowded .batchSize
  rw [value_wordy_batchSize] at hwordy htext ⊢
  rw [value_crowded] at hcrowded
  have hmany (s : Text) (n : Int) (hs : Value.text "many" = .text s) : ¬Spells s n := by
    cases hs
    exact not_spells_many
  refine ⟨⟨rfl, ?_, htext rfl⟩, ⟨not_writable_crowded, ?_⟩, ?_⟩
  · obtain ⟨fault, hfault, hmessage⟩ := (hwordy nofun hmany).1 rfl
    rw [literal_many] at hmessage
    exact ⟨fault, hfault, hmessage⟩
  · exact (hcrowded nofun nofun).2 (value_crowded ▸ not_writable_crowded)
  · refine hrun (by decide) [] connected.rows " " "\n" 7 (by decide) (by decide) ?_
    exact length_toDigits_le_iff.mp (by decide)

/-- An error about a value that cannot be written is of another kind. -/
theorem not_forall_config_error :
    ¬∀ (c : Config) (key : Key), (∀ n, c.value key ≠ .int n) →
      (∀ s n, c.value key = .text s → ¬Spells s n) →
      ∃ fault : ConfigError, c.int key = .error (.config fault) := by
  intro h
  have hnone : ¬crowded.HoldsInteger .batchSize := by
    rw [holdsInteger_iff, value_crowded]
    nofun
  obtain ⟨fault, hfault⟩ := h crowded .batchSize (value_crowded ▸ nofun) (value_crowded ▸ nofun)
  rw [int_of_not_holdsInteger hnone, notInteger, not_writable_crowded] at hfault
  cases hfault

end Config

end TableSink
