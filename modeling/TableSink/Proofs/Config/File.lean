/-
Configurations that were read from files.

The reader gives each key one value (`holdsOnce_load`). So it does not matter to the
settings in which order the rows of a file stand, nor which other rows there are
(`settings_eq_of_load`).
-/
import TableSink.Config.File
import TableSink.Proofs.Config.Effective
import TableSink.Proofs.Yaml.Values

namespace TableSink.Config

/-- A configuration has its rows from the reader. -/
theorem exists_reader_of_loadBy {reader : Yaml.Reader} {path : String} {entry : FileEntry}
    {c : Config} (h : loadBy reader path entry = .ok c) :
    ∃ content d, entry = .file content ∧ reader content = .ok d ∧
      (c.rows = d.rows ∨ c.rows = []) := by
  obtain ⟨d, hd, hrows⟩ := Except.bind_eq_ok_iff.mp h
  cases entry with
  | missing | directory | tooLong => cases hd
  | file content =>
    refine ⟨content, d, rfl, Except.mapError_eq_ok_iff.mp hd, ?_⟩
    split at hrows
    · cases hrows
      exact .inl rfl
    · cases hrows
      exact .inl rfl
    · cases hrows
      exact .inr rfl
    · cases hrows

/-- No key stands twice in a configuration that was read. -/
theorem holdsOnce_load {path : String} {entry : FileEntry} {c : Config}
    (h : load path entry = .ok c) : c.HoldsOnce := by
  obtain ⟨content, d, -, hd, hrows⟩ := exists_reader_of_loadBy h
  intro key v w hv hw
  rcases hrows with hrows | hrows
  · rw [hrows] at hv hw
    exact Yaml.eq_of_text_key_reader hd hv hw
  · rw [hrows] at hv
    cases hv

/-- Files with the same rows under the keys that are read come to the same settings. -/
theorem settings_eq_of_load {path path' : String} {entry entry' : FileEntry} {c d : Config}
    (hc : load path entry = .ok c) (hd : load path' entry' = .ok d)
    (h : ∀ (key : Key) v, (.text key.name, v) ∈ c.rows ↔ (.text key.name, v) ∈ d.rows) :
    c.settings = d.settings :=
  settings_of_agrees fun key => value_eq_of_rows (holdsOnce_load hc) (holdsOnce_load hd) (h key)

end TableSink.Config
