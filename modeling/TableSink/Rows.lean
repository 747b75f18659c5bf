/-
Rows with a key each, in the order in which the keys came first.

Writing under a key that is there changes the value in its place; a new key
goes to the end. So keys that are distinct stay distinct, and a lookup after
`put` answers the value that was put, and what it answered before for every
other key.
-/

namespace TableSink.Rows

variable {κ α : Type} [BEq κ]

/-- Writes a value under a key. -/
def put : List (κ × α) → κ → α → List (κ × α)
  | [], k, a => [(k, a)]
  | (k', a') :: rows, k, a => if k == k' then (k', a) :: rows else (k', a') :: put rows k a

/-- Writes the given rows one after the other. -/
def putAll (rows new : List (κ × α)) : List (κ × α) :=
  new.foldl (fun rows (k, a) => put rows k a) rows

/-- The rows of a list in which keys may repeat: each key at its first place,
with its last value. -/
def ofList (new : List (κ × α)) : List (κ × α) :=
  putAll [] new

theorem lookup_put [LawfulBEq κ] (rows : List (κ × α)) (k k' : κ) (a : α) :
    (put rows k a).lookup k' = if k' == k then some a else rows.lookup k' := by
  induction rows with
  | nil => by_cases h : k' == k <;> simp [put, List.lookup_cons, h]
  | cons row rows ih =>
    obtain ⟨j, b⟩ := row
    by_cases hj : k == j
    · obtain rfl := eq_of_beq hj
      by_cases h : k' == k <;> simp [put, List.lookup_cons, h]
    · simp only [put, hj, Bool.false_eq_true, if_false, List.lookup_cons, ih]
      by_cases h : k' == k
      · obtain rfl := eq_of_beq h
        simp [hj]
      · simp [h]

theorem lookup_putAll [LawfulBEq κ] (rows new : List (κ × α)) (k : κ) :
    (putAll rows new).lookup k = (new.reverse.lookup k).or (rows.lookup k) := by
  induction new generalizing rows with
  | nil => simp [putAll]
  | cons row new ih =>
    obtain ⟨j, a⟩ := row
    have := ih (put rows j a)
    simp only [putAll, List.foldl_cons] at this ⊢
    rw [this, lookup_put, List.reverse_cons, List.lookup_append, List.lookup_cons,
      List.lookup_nil]
    cases new.reverse.lookup k <;> by_cases h : k == j <;> simp [h]

/-- The last row of a key counts. -/
theorem lookup_ofList [LawfulBEq κ] (new : List (κ × α)) (k : κ) :
    (ofList new).lookup k = new.reverse.lookup k := by
  simp [ofList, lookup_putAll]

theorem map_fst_put (rows : List (κ × α)) (k : κ) (a : α) :
    (put rows k a).map (·.1) =
      if (rows.map (·.1)).any (k == ·) then rows.map (·.1) else rows.map (·.1) ++ [k] := by
  induction rows with
  | nil => simp [put]
  | cons row rows ih =>
    by_cases hj : k == row.1
    · simp [put, hj]
    · simp only [put, hj, Bool.false_eq_true, if_false, List.map_cons, ih, List.any_cons,
        Bool.false_or]
      split <;> simp

theorem nodup_put [LawfulBEq κ] {rows : List (κ × α)} (h : (rows.map (·.1)).Nodup) (k : κ)
    (a : α) : ((put rows k a).map (·.1)).Nodup := by
  rw [map_fst_put]
  split
  · exact h
  · rename_i hk
    refine List.nodup_append.2 ⟨h, by simp, fun j hj k' hk' => ?_⟩
    simp only [List.any_eq_true, not_exists, not_and] at hk
    obtain rfl : k' = k := by simpa using hk'
    exact fun he => hk j hj (by simp [he])

theorem nodup_putAll [LawfulBEq κ] {rows : List (κ × α)} (h : (rows.map (·.1)).Nodup)
    (new : List (κ × α)) : ((putAll rows new).map (·.1)).Nodup := by
  induction new generalizing rows with
  | nil => exact h
  | cons row new ih => exact ih (nodup_put h row.1 row.2)

theorem nodup_ofList [LawfulBEq κ] (new : List (κ × α)) : ((ofList new).map (·.1)).Nodup :=
  nodup_putAll (by simp) new

end TableSink.Rows
