/-
What a configuration comes to.

A sink reads the values of eight keys, and an absent key has its default. So
configurations with the same values (`Agrees`) come to the same settings,
whichever order their rows stand in and whichever other keys they have
(`run_of_agrees`). The other keys are reported, and for that they are written: a
key that holds an integer with too many digits cannot be, and then there are no
settings (`run_of_not_writable`).
-/
import TableSink.Config.Basic
import TableSink.Proofs.Text.Order

namespace TableSink

open Text

/-! ## Texts as keys -/

namespace Value

theorem text_beq_iff {s : Text} {v : Value} : (Value.text s == v) = true ↔ v = .text s := by
  show same (.text s) v = true ↔ v = .text s
  cases v with
  | text t => simpa [same] using eq_comm
  | _ => simp [same, whole?]

theorem beq_text_iff {s : Text} {v : Value} : (v == Value.text s) = true ↔ v = .text s := by
  show same v (.text s) = true ↔ v = .text s
  cases v with
  | text t => simp [same]
  | _ => simp [same, whole?]

/-- Rows in which a text has one value answer it for the text. -/
theorem lookup_text_eq_some_iff {rows : List (Value × Value)} {s : Text}
    (h : ∀ v w, (.text s, v) ∈ rows → (.text s, w) ∈ rows → v = w) {v : Value} :
    rows.lookup (.text s) = some v ↔ (.text s, v) ∈ rows := by
  induction rows with
  | nil => simp
  | cons row rows ih =>
    obtain ⟨k, w⟩ := row
    rw [List.lookup_cons]
    cases hk : Value.text s == k with
    | true =>
      obtain rfl := text_beq_iff.mp hk
      constructor
      · rintro ⟨⟩
        exact List.mem_cons_self
      · intro hm
        exact congrArg some (h w v List.mem_cons_self hm)
    | false =>
      have hne : ¬Value.text s = k := by
        rintro rfl
        rw [text_beq_iff.mpr rfl] at hk
        cases hk
      have hrows := ih fun v w hv hw => h v w (List.mem_cons_of_mem _ hv) (List.mem_cons_of_mem _ hw)
      simpa [hne] using hrows

theorem allWritable_iff {vs : List Value} :
    allWritable vs = true ↔ ∀ v ∈ vs, v.isWritable = true := by
  induction vs with
  | nil => simp [allWritable]
  | cons v vs ih => simp [allWritable, ih]

theorem isWritable_int_of_le {n : Int} (h : leastLong ≤ n.natAbs) :
    isWritable (.int n) = false := by
  simp only [isWritable, isLong, decide_eq_true h, Bool.not_true]

theorem isWritable_leastLong : isWritable (.int leastLong) = false :=
  isWritable_int_of_le (Nat.le_of_eq (Int.natAbs_natCast leastLong).symm)

end Value

namespace Config

theorem isKnown_iff {k : Value} : isKnown k = true ↔ ∃ key : Key, k = .text key.name := by
  simp only [isKnown, List.any_eq_true, Value.beq_text_iff]
  constructor
  · rintro ⟨key, -, hk⟩
    exact ⟨key, hk⟩
  · rintro ⟨key, hk⟩
    exact ⟨key, by cases key <;> decide, hk⟩

theorem Key.name_injective {key key' : Key} (h : ofString key.name = ofString key'.name) :
    key = key' := by
  have hchars : (ofString key.name).chars = (ofString key'.name).chars := congrArg chars h
  simp only [ofString, chars_ofChars] at hchars
  have hname : key.name = key'.name := String.toList_inj.mp hchars
  cases key <;> cases key' <;> simp [name] at hname ⊢

theorem Key.name_inj {key key' : Key} : ofString key.name = ofString key'.name ↔ key = key' :=
  ⟨name_injective, fun h => h ▸ rfl⟩

theorem isKnown_int (n : Int) : isKnown (.int n) = false := rfl

theorem mem_strangeKeys_iff {c : Config} {k : Value} :
    k ∈ c.strangeKeys ↔ k ∈ c.rows.map (·.1) ∧ ∀ key : Key, k ≠ .text key.name := by
  simp only [strangeKeys, List.mem_filter, Bool.not_eq_true', Bool.eq_false_iff, ne_eq, isKnown_iff,
    not_exists]

/-! ## Values that hold -/

/-- The same value holds for each key that is read. -/
def Agrees (c d : Config) : Prop :=
  ∀ key, c.value key = d.value key

theorem Agrees.symm {c d : Config} (h : c.Agrees d) : d.Agrees c :=
  fun key => (h key).symm

/-- No key that is read stands there with two values. -/
def HoldsOnce (c : Config) : Prop :=
  ∀ (key : Key) v w, (.text key.name, v) ∈ c.rows → (.text key.name, w) ∈ c.rows → v = w

@[simp]
theorem value_nil (key : Key) : value ⟨[]⟩ key = key.default := rfl

@[simp]
theorem value_cons_text (key' : Key) (v : Value) (rows : List (Value × Value)) (key : Key) :
    value ⟨(.text key'.name, v) :: rows⟩ key = if key = key' then v else value ⟨rows⟩ key := by
  by_cases hkey : key = key'
  · have heq : (Value.text key.name == .text key'.name) = true := by
      rw [Value.text_beq_iff, hkey]
    simp only [value, List.lookup_cons, heq, Option.getD_some, if_pos hkey]
  · have hne : (Value.text key.name == .text key'.name) = false := by
      rw [Bool.eq_false_iff, ne_eq, Value.text_beq_iff, Value.text.injEq]
      exact fun hname => hkey (Key.name_injective hname).symm
    simp only [value, List.lookup_cons, hne, if_neg hkey]

theorem value_cons_strange {k : Value} (hk : isKnown k = false) (v : Value)
    (rows : List (Value × Value)) (key : Key) :
    value ⟨(k, v) :: rows⟩ key = value ⟨rows⟩ key := by
  have hne : (Value.text key.name == k) = false := by
    rw [Bool.eq_false_iff, ne_eq, Value.text_beq_iff]
    rintro rfl
    rw [isKnown_iff.mpr ⟨key, rfl⟩] at hk
    cases hk
  simp only [value, List.lookup_cons, hne]

/-- The value that stands there holds, and the default where none does. -/
theorem value_eq_iff {c : Config} (hc : c.HoldsOnce) {key : Key} {v : Value} :
    c.value key = v ↔ (.text key.name, v) ∈ c.rows ∨
      (∀ w, (.text key.name, w) ∉ c.rows) ∧ v = key.default := by
  have hlookup (w : Value) := Value.lookup_text_eq_some_iff (hc key) (v := w)
  simp only [← hlookup, value]
  cases c.rows.lookup (.text key.name) with
  | none => simp [eq_comm]
  | some w => simp

theorem value_eq_of_rows {c d : Config} (hc : c.HoldsOnce) (hd : d.HoldsOnce) {key : Key}
    (h : ∀ v, (.text key.name, v) ∈ c.rows ↔ (.text key.name, v) ∈ d.rows) :
    c.value key = d.value key := by
  rw [value_eq_iff hc]
  simp only [h]
  exact (value_eq_iff hd).mp rfl

/-! ## Runs -/

theorem text?_of_null {c : Config} {key : Key} (h : c.value key = .null) :
    c.text? key = .ok none := by
  rw [text?, h]

theorem text?_of_text {c : Config} {key : Key} {s : Text} (h : c.value key = .text s) :
    c.text? key = .ok (some s) := by
  rw [text?, h]
  rfl

theorem int_of_int {c : Config} {key : Key} {n : Int} (h : c.value key = .int n) :
    c.int key = .ok n := by
  rw [int, h]
  rfl

theorem settings_of_agrees {c d : Config} (h : c.Agrees d) : c.settings = d.settings := by
  have htext (key : Key) : c.text? key = d.text? key := by simp only [text?, h key]
  have hint (key : Key) : c.int key = d.int key := by simp only [int, h key]
  simp only [settings, request, htext, hint]

theorem run_of_writable {c : Config} (h : ∀ k ∈ c.strangeKeys, k.isWritable = true) :
    c.run = ⟨(sort (c.strangeKeys.map Value.toText)).map warning, c.settings⟩ := by
  simp only [run, unknownKeys, if_pos (Value.allWritable_iff.mpr h)]

theorem run_of_not_writable {c : Config} {k : Value} (hk : k ∈ c.strangeKeys)
    (h : k.isWritable = false) : c.run = ⟨[], ⟨[], .error .longInteger⟩⟩ := by
  have hall : ¬Value.allWritable c.strangeKeys = true := by
    intro hall
    rw [Value.allWritable_iff.mp hall k hk] at h
    cases h
  simp only [run, unknownKeys, if_neg hall]

/-- **What a configuration comes to.** Configurations with the same values come
to the same settings or the same error, if their other keys can be written; then
each of these is reported, in the order of their texts. Otherwise there are no
settings and no reports. -/
theorem run_of_agrees {c d : Config} (h : c.Agrees d) :
    ((∀ k ∈ c.strangeKeys, k.isWritable = true) → (∀ k ∈ d.strangeKeys, k.isWritable = true) →
      c.run.outcome = d.run.outcome) ∧
    ((∀ k ∈ c.strangeKeys, k.isWritable = true) → ∃ keys : List Text,
      c.run.warnings =
        keys.map (fun key => ofString "Ignoring unknown sink config key '" ++ key ++ "'") ∧
      keys.Pairwise (fun s t => le s t = true) ∧ keys.Perm (c.strangeKeys.map Value.toText)) ∧
    (¬(∀ k ∈ c.strangeKeys, k.isWritable = true) →
      c.run = ⟨[], ⟨[], .error .longInteger⟩⟩) := by
  refine ⟨fun hc hd => ?_, fun hc => ?_, fun hc => ?_⟩
  · rw [run_of_writable hc, run_of_writable hd]
    exact settings_of_agrees h
  · rw [run_of_writable hc]
    exact ⟨_, rfl, pairwise_sort _, perm_sort _⟩
  · obtain ⟨k, hk⟩ := Classical.not_forall.mp hc
    obtain ⟨hk, hwrite⟩ := Classical.not_imp.mp hk
    exact run_of_not_writable hk (Bool.eq_false_iff.mpr hwrite)

/-- A configuration with the two values that have to be set. -/
def connected : Config where
  rows := [
    (.text Key.connection.name, .text "c"),
    (.text Key.mappings.name, .text "INSERT INTO t SELECT * FROM s")]

/-- The same with its rows in another order, a default that is written out and a
key of its own. -/
def annotated : Config where
  rows := [
    (.int 7, .null),
    (.text Key.mappings.name, .text "INSERT INTO t SELECT * FROM s"),
    (.text Key.maxRetries.name, .int 10),
    (.text Key.connection.name, .text "c")]

theorem connected_agrees_annotated : connected.Agrees annotated := by
  intro key
  simp only [connected, annotated, value_cons_strange (isKnown_int 7), value_cons_text, value_nil]
  cases key <;> simp [Key.default]

theorem strangeKeys_connected : connected.strangeKeys = [] := by
  rw [List.eq_nil_iff_forall_not_mem]
  intro k hk
  obtain ⟨hm, hne⟩ := mem_strangeKeys_iff.mp hk
  have hkey : k = .text Key.connection.name ∨ k = .text Key.mappings.name := by
    simpa [connected] using hm
  rcases hkey with hkey | hkey
  · exact hne _ hkey
  · exact hne _ hkey

theorem strangeKeys_annotated : annotated.strangeKeys = [.int 7] := by
  have hknown (key : Key) : isKnown (.text key.name) = true := isKnown_iff.mpr ⟨key, rfl⟩
  simp [strangeKeys, annotated, hknown, isKnown_int]

theorem run_connected_annotated :
    connected.Agrees annotated ∧
    (∀ k ∈ connected.strangeKeys, k.isWritable = true) ∧
    (∀ k ∈ annotated.strangeKeys, k.isWritable = true) ∧
    connected.run.outcome = annotated.run.outcome ∧ connected.run.warnings = [] ∧
    annotated.run.warnings = [ofString "Ignoring unknown sink config key '7'"] := by
  have hconnected : ∀ k ∈ connected.strangeKeys, k.isWritable = true := by
    simp [strangeKeys_connected]
  have hannotated : ∀ k ∈ annotated.strangeKeys, k.isWritable = true := by
    have hseven : (Value.int 7).isWritable = true := by decide +kernel
    simpa [strangeKeys_annotated] using hseven
  have hrun := run_of_agrees connected_agrees_annotated
  have hrun' := run_of_agrees connected_agrees_annotated.symm
  obtain ⟨none, hnone, -, hperm⟩ := hrun.2.1 hconnected
  rw [strangeKeys_connected] at hperm
  obtain ⟨one, hone, -, hperm'⟩ := hrun'.2.1 hannotated
  rw [strangeKeys_annotated] at hperm'
  refine ⟨connected_agrees_annotated, hconnected, hannotated, hrun.1 hconnected hannotated, ?_, ?_⟩
  · rw [hnone, List.perm_nil.mp hperm]
    rfl
  · rw [hone, List.perm_singleton.mp hperm']
    with_unfolding_all rfl

theorem value_connected (key : Key) : connected.value key =
    if key = .connection then .text "c"
    else if key = .mappings then .text "INSERT INTO t SELECT * FROM s"
    else key.default := by
  simp only [connected, value_cons_text, value_nil]

theorem request_connected :
    connected.request =
      .ok { mappings := some "INSERT INTO t SELECT * FROM s", connection := some "c" } := by
  simp only [request, text?_of_text (value_connected .mappings),
    text?_of_text (value_connected .connection), text?_of_null (value_connected .user),
    text?_of_null (value_connected .password), text?_of_text (value_connected .errorPolicy),
    int_of_int (value_connected .maxRetries), int_of_int (value_connected .batchSize),
    int_of_int (value_connected .retryDelay)]
  rfl

/-- The same with a key of its own that cannot be written. -/
def overlong : Config where
  rows := (.int leastLong, .int 1) :: connected.rows

theorem connected_agrees_overlong : connected.Agrees overlong := by
  intro key
  rw [overlong, value_cons_strange (isKnown_int _)]

/-- A key that cannot be written takes the settings away. -/
theorem not_forall_outcome_eq :
    ¬∀ c d : Config, c.Agrees d → c.run.outcome = d.run.outcome := by
  intro h
  have hstrange : .int leastLong ∈ overlong.strangeKeys :=
    mem_strangeKeys_iff.mpr ⟨List.mem_cons_self, nofun⟩
  have hlong : (Value.int leastLong).isWritable = false :=
    Value.isWritable_int_of_le (Nat.le_of_eq (Int.natAbs_natCast leastLong).symm)
  have hlog : connected.run.outcome.log ≠ [] := by
    rw [run_of_writable (by simp [strangeKeys_connected]), settings, request_connected]
    with_unfolding_all nofun
  apply hlog
  rw [h _ _ connected_agrees_overlong, run_of_not_writable hstrange hlong]

end Config

end TableSink
