/-
What a shared table answers.

A table that is built from rows answers for a field by its last row (`Rows.Last`), and
lists the fields in the order in which they came first (`Rows.Lists`). It goes on to do so
over any run: what is written to the rows that it was built from does not reach it, and
what is tried on the table itself is refused and changes nothing (`run_answers`).
-/
import TableSink.Mapping.Access
import TableSink.Proofs.Settings.Views

namespace TableSink

open Text

/-! ## What rows say -/

namespace Rows

/-- The last of the rows for the field gives it this column. -/
def Last (rows : List AliasRow) (field : Text) (a : Alias) : Prop :=
  ∃ before after, rows = before ++ (field, a) :: after ∧ field ∉ after.map (·.1)

/-- Rows with every field of the others once, in the order in which the fields came first
there, and with what the last row there says of each. -/
structure Lists (rows listed : List AliasRow) : Prop where
  fields : listed.map (·.1) = (rows.map (·.1)).eraseDups
  last : ∀ row ∈ listed, Last rows row.1 row.2

/-- Rows that say the same of every field. -/
def Agree (rows rows' : List AliasRow) : Prop :=
  ∀ field a, Last rows field a ↔ Last rows' field a

end Rows

namespace AliasTable

variable {rows rows' : List AliasRow}

theorem get?_ofRows_eq_some_iff {field : Text} {a : Alias} :
    (ofRows rows).get? field = some a ↔ Rows.Last rows field a := by
  rw [get?_ofRows]
  exact Rows.lookup_reverse_eq_some_iff

theorem get?_ofRows_eq_none_iff {field : Text} :
    (ofRows rows).get? field = none ↔ field ∉ rows.map (·.1) := by
  rw [get?_ofRows]
  exact Rows.lookup_reverse_eq_none_iff

theorem contains_ofRows_iff {field : Text} :
    (ofRows rows).contains field = true ↔ ∃ a, Rows.Last rows field a := by
  rw [contains, Option.isSome_iff_exists]
  simp only [get?_ofRows_eq_some_iff]

theorem size_ofRows (rows : List AliasRow) :
    (ofRows rows).size = (rows.map (·.1)).eraseDups.length := by
  rw [← fields_ofRows, fields, List.length_map, size]

theorem lists_rows_ofRows (rows : List AliasRow) : Rows.Lists rows (ofRows rows).rows where
  fields := fields_ofRows rows
  last _ hrow := get?_ofRows_eq_some_iff.mp (mem_rows_iff.mp hrow)

theorem beq_ofRows_iff : (ofRows rows == ofRows rows') = true ↔ Rows.Agree rows rows' := by
  rw [beq_iff_get?, Rows.Agree]
  simp only [← get?_ofRows_eq_some_iff]
  exact forall_congr' fun _ => Option.ext_iff

/-- A table is the table of its own rows. -/
theorem ofRows_rows (t : AliasTable) : ofRows t.rows = t := by
  refine ext_of_get? ?_ fun field => ?_
  · rw [fields_ofRows]
    exact eraseDups_of_nodup t.distinct
  · have hdistinct : (t.rows.reverse.map (·.1)).Nodup := by
      rw [List.map_reverse, List.nodup_reverse]
      exact t.distinct
    refine Option.ext fun a => ?_
    rw [get?_ofRows, Rows.lookup_eq_some_iff_mem hdistinct, List.mem_reverse, mem_rows_iff]

end AliasTable

/-! ## What a table answers -/

/-- The answer to an access, told by the rows that the table was built from. -/
inductive Answers (rows : List AliasRow) : Access → Reply → Prop
  | found {field a} : Rows.Last rows field a → Answers rows (.lookup field) (.column (some a))
  | missing {field} : field ∉ rows.map (·.1) →
      Answers rows (.lookup field) (.failed (.missing field))
  | got {field a} : Rows.Last rows field a → Answers rows (.get field) (.column (some a))
  | absent {field} : field ∉ rows.map (·.1) → Answers rows (.get field) (.column none)
  | contains {field b} : (b = true ↔ ∃ a, Rows.Last rows field a) →
      Answers rows (.contains field) (.truth b)
  | size : Answers rows .size (.size (rows.map (·.1)).eraseDups.length)
  | fields : Answers rows .fields (.fields (rows.map (·.1)).eraseDups)
  | rows {listed} : Rows.Lists rows listed → Answers rows .rows (.rows listed)
  | literal {listed} : Rows.Lists rows listed → Answers rows .literal
      (.text ("AliasTable(" ++ rowsLiteral (listed.map fun (field, a) => (quote field, a.literal))
        ++ ")"))
  | equalsRows {rows' b} : (b = true ↔ Rows.Agree rows rows') →
      Answers rows (.equalsRows rows') (.truth b)
  | equalsTable {rows' equal sameHash} : (equal = true ↔ Rows.Agree rows rows') →
      (equal = true → sameHash = true) →
      Answers rows (.equalsTable rows') (.comparison equal sameHash)
  | copy {listed} : Rows.Lists rows listed → Answers rows .copy (.rows listed)
  | assign {field a} : Answers rows (.assign field a) (.failed .assignment)
  | delete {field} : Answers rows (.delete field) (.failed .deletion)
  | setAttribute {name} : Answers rows (.setAttribute name) (.failed .readOnly)
  | changeOrigin {field a listed} : Rows.Lists rows listed →
      Answers rows (.changeOrigin field a) (.rows listed)

/-- What an access writes to the rows that the table was built from. -/
def Access.change? : Access → Option AliasRow
  | .changeOrigin field a => some (field, a)
  | _ => none

namespace SharedTable

/-- The state after a run of accesses. -/
def after (s : SharedTable) (accesses : List Access) : SharedTable :=
  accesses.foldl (fun s a => (s.access a).1) s

/-- An access writes to the rows that the table was built from, or nowhere. -/
theorem access_state (s : SharedTable) (a : Access) :
    (s.access a).1 = { s with origin := Rows.putAll s.origin a.change?.toList } := by
  cases a with
  | lookup field =>
    rw [access]
    cases s.table.get? field <;> rfl
  | _ => rfl

theorem answers_access {s : SharedTable} {rows : List AliasRow} (h : s.table = .ofRows rows)
    (a : Access) : Answers rows a (s.access a).2 := by
  have hlists := AliasTable.lists_rows_ofRows rows
  cases a with
  | lookup field =>
    rw [access, h]
    cases hget : (AliasTable.ofRows rows).get? field with
    | some a => exact .found (AliasTable.get?_ofRows_eq_some_iff.mp hget)
    | none => exact .missing (AliasTable.get?_ofRows_eq_none_iff.mp hget)
  | get field =>
    rw [access, h]
    cases hget : (AliasTable.ofRows rows).get? field with
    | some a => exact .got (AliasTable.get?_ofRows_eq_some_iff.mp hget)
    | none => exact .absent (AliasTable.get?_ofRows_eq_none_iff.mp hget)
  | contains field =>
    rw [access, h]
    exact .contains AliasTable.contains_ofRows_iff
  | size =>
    rw [access, h, AliasTable.size_ofRows]
    exact .size
  | fields =>
    rw [access, h, AliasTable.fields_ofRows]
    exact .fields
  | rows =>
    rw [access, h]
    exact .rows hlists
  | literal =>
    rw [access, h]
    exact .literal hlists
  | equalsRows rows' =>
    rw [access, h]
    exact .equalsRows AliasTable.beq_ofRows_iff
  | equalsTable rows' =>
    rw [access, h]
    refine .equalsTable AliasTable.beq_ofRows_iff fun hequal => ?_
    exact beq_iff_eq.mpr (hash_eq hequal)
  | copy =>
    rw [access, h, AliasTable.ofRows_rows]
    exact .copy hlists
  | assign field a => exact .assign
  | delete field => exact .delete
  | setAttribute name => exact .setAttribute
  | changeOrigin field a =>
    rw [access, h]
    exact .changeOrigin hlists

theorem answers_run {s : SharedTable} {rows : List AliasRow} (h : s.table = .ofRows rows)
    (accesses : List Access) : List.Forall₂ (Answers rows) accesses (s.run accesses) := by
  induction accesses generalizing s with
  | nil => exact .nil
  | cons a accesses ih =>
    have hstep : (s.access a).1.table = .ofRows rows := by rw [access_state, h]
    exact .cons (answers_access h a) (ih hstep)

theorem after_eq (s : SharedTable) (accesses : List Access) :
    s.after accesses =
      { s with origin := Rows.putAll s.origin (accesses.filterMap Access.change?) } := by
  induction accesses generalizing s with
  | nil => rfl
  | cons a accesses ih =>
    have hstep := ih (s.access a).1
    rw [after] at hstep ⊢
    rw [List.foldl_cons, hstep, access_state]
    cases hchange : a.change? with
    | none => simp [hchange, Rows.putAll]
    | some row => simp [hchange, Rows.putAll]

/-- **A shared table answers as on the first day.** Over any run of accesses, each answer is
told by the rows that the table was built from, as they were then. -/
theorem run_answers (rows : List AliasRow) (accesses : List Access) :
    List.Forall₂ (Answers rows) accesses ((ofRows rows).run accesses) ∧
    (ofRows rows).after accesses =
      { origin := Rows.ofList (rows ++ accesses.filterMap Access.change?)
        table := .ofRows rows } := by
  refine ⟨answers_run rfl accesses, ?_⟩
  rw [after_eq, ofRows]
  simp [Rows.ofList, Rows.putAll]

example : (ofRows [("a", ⟨"x", false⟩), ("b", ⟨"b", false⟩), ("a", ⟨"y", true⟩)]).run
    [.delete "a", .changeOrigin "a" ⟨"z", false⟩, .fields, .lookup "a", .lookup "z"] =
    [.failed .deletion, .rows [("a", ⟨"y", true⟩), ("b", ⟨"b", false⟩)], .fields ["a", "b"],
      .column (some ⟨"y", true⟩), .failed (.missing "z")] := by
  decide

end SharedTable

end TableSink
