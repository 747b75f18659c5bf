/-
Writing a statement so that it reads back.

Every name can stand in backquotes that is not empty and holds neither a
backquote nor the separator of statements. A statement whose names are such,
that names a write mode and that selects something, is written with its
keywords bare and all its names in backquotes, and reads back as itself, also
where a name is a keyword, a mark or a blank (`parse_written`). No other
statement is read from any text (`expressible_of_parse`).
-/
import TableSink.Proofs.Statement.Reading

namespace TableSink

open Text Grammar

namespace Statement

/-! ## Statements that can be written -/

/-- A name that can stand in backquotes within a statement. -/
def Quotable (name : Text) : Prop :=
  name ≠ [] ∧ .char Token.backquote ∉ name ∧ .char ';' ∉ name

/-- A statement that some text spells. -/
structure Expressible (s : Statement) : Prop where
  mode : s.mode = ofString "INSERT" ∨ s.mode = ofString "UPSERT"
  selects : s.selectsAll = true ∨ s.fields ≠ []
  target : Quotable s.target
  source : Quotable s.source
  fields : ∀ p ∈ s.fields, Quotable p.1 ∧ Quotable p.2
  keys : ∀ name ∈ s.keys, Quotable name
  ignored : ∀ name ∈ s.ignored, Quotable name

/-! ## The written form -/

/-- The keyword as a token. -/
def keyword (k : Keyword) : Token :=
  .word k.text

/-- Parts with a comma between every two. -/
def listed (parts : List (List Token)) : List Token :=
  [Token.comma].intercalate parts

/-- A field is written with its name in the table, also where that is its own. -/
def itemTokens : SelectItem → List Token
  | .all => [.star]
  | .field name column => [.quoted name, keyword .as, .quoted column]

def nameTokens (names : List Text) : List Token :=
  listed (names.map fun name => [.quoted name])

def clauseTokens : Clause → List Token
  | .ignored names => keyword .ignore :: nameTokens names
  | .keys names => keyword .pk :: nameTokens names
  | .autoCreate => [keyword .autocreate]
  | .autoEvolve => [keyword .autoevolve]
  | .capitalize => [keyword .capitalize]

/-- The select list of a statement, the star first. -/
def items (s : Statement) : List SelectItem :=
  (if s.selectsAll then [.all] else []) ++ s.fields.map fun p => .field p.1 p.2

/-- Does the statement need the clause? -/
def needs (s : Statement) : Clause → Bool
  | .ignored _ => !s.ignored.isEmpty
  | .keys _ => !s.keys.isEmpty
  | .autoCreate => s.autoCreate
  | .autoEvolve => s.autoEvolve
  | .capitalize => s.capitalize

/-- The clauses of a statement: lists that are not empty, and flags that are
set. -/
def clauses (s : Statement) : List Clause :=
  [.ignored s.ignored, .keys s.keys, .autoCreate, .autoEvolve, .capitalize].filter s.needs

/-- The tokens of a statement. -/
def tokens (s : Statement) : List Token :=
  .word s.mode :: keyword .into :: .quoted s.target :: keyword .select ::
    (listed (s.items.map itemTokens) ++
      keyword .from :: .quoted s.source :: s.clauses.flatMap clauseTokens)

/-- The text of a statement. -/
def written (s : Statement) : Text :=
  Token.write s.tokens

/-! ## The written form derives the statement -/

theorem spells_keyword (k : Keyword) : (keyword k).Spells k := by
  refine ⟨k.text, rfl, ?_⟩
  cases k <;> decide

theorem names_quoted (name : Text) : (Token.quoted name).Names name :=
  .inl rfl

theorem nameList_nameTokens {names : List Text} (h : names ≠ []) :
    NameList (nameTokens names) names := by
  induction names with
  | nil => exact absurd rfl h
  | cons name names ih =>
    cases names with
    | nil => simpa [nameTokens, listed] using .one (names_quoted name)
    | cons name' names =>
      have := NameList.cons (names_quoted name) (ih (by simp))
      simpa [nameTokens, listed] using this

theorem item_itemTokens (item : SelectItem) : Item (itemTokens item) item := by
  cases item with
  | all => exact .all
  | field name column =>
    exact .renamed (names_quoted name) (spells_keyword .as) (names_quoted column)

theorem itemList_listed {α : Type} {tokens : α → List Token} {item : α → SelectItem} {xs : List α}
    (hne : xs ≠ []) (h : ∀ x ∈ xs, Item (tokens x) (item x)) :
    ItemList (listed (xs.map tokens)) (xs.map item) := by
  induction xs with
  | nil => exact absurd rfl hne
  | cons x xs ih =>
    simp only [List.mem_cons, forall_eq_or_imp] at h
    cases xs with
    | nil => simpa [listed] using .one h.1
    | cons x' xs =>
      have := ItemList.cons h.1 (ih (by simp) h.2)
      simpa [listed] using this

theorem count_all_items (s : Statement) : s.items.count .all ≤ 1 := by
  have : (s.fields.map fun p => SelectItem.field p.1 p.2).count .all = 0 := by
    simp [List.count_eq_zero]
  rw [items, List.count_append, this]
  split <;> simp

theorem items_ne_nil {s : Statement} (h : s.selectsAll = true ∨ s.fields ≠ []) : s.items ≠ [] := by
  rcases h with h | h <;> simp [items, h]

theorem clauseOf_clauseTokens {s : Statement} {c : Clause} (h : c ∈ s.clauses) :
    ClauseOf (clauseTokens c) c := by
  simp only [clauses, List.mem_filter, List.mem_cons, List.not_mem_nil, or_false] at h
  rcases h with ⟨rfl | rfl | rfl | rfl | rfl, hneeds⟩
  · exact .ignored (spells_keyword .ignore) (nameList_nameTokens (by simpa [needs] using hneeds))
  · exact .keys (spells_keyword .pk) (nameList_nameTokens (by simpa [needs] using hneeds))
  · exact .autoCreate (spells_keyword .autocreate)
  · exact .autoEvolve (spells_keyword .autoevolve)
  · exact .capitalize (spells_keyword .capitalize)

theorem clauseList_flatMap {α : Type} {tokens : α → List Token} {clause : α → Clause} {xs : List α}
    (h : ∀ x ∈ xs, ClauseOf (tokens x) (clause x)) :
    ClauseList (xs.flatMap tokens) (xs.map clause) := by
  induction xs with
  | nil => exact .nil
  | cons x xs ih =>
    simp only [List.mem_cons, forall_eq_or_imp] at h
    exact .cons h.1 (ih h.2)

theorem nodup_kind_clauses (s : Statement) : (s.clauses.map Clause.kind).Nodup :=
  (List.filter_sublist.map Clause.kind).nodup (by simp [Clause.kind])

theorem holds_parts (s : Statement) {mode : Keyword} (hm : s.mode = mode.text) :
    Holds s mode s.target s.items s.source s.clauses where
  mode := hm
  target := rfl
  source := rfl
  selectsAll := by
    rw [items]
    split <;> simp_all
  fields := by
    have hfields : s.fields = (s.fields.map fun p => SelectItem.field p.1 p.2).filterMap
        SelectItem.field? := by
      simp [List.filterMap_map, Function.comp_def, SelectItem.field?]
    rw [items, List.filterMap_append, ← hfields]
    split <;> rfl
  keys := by
    by_cases h : s.keys = [] <;> simp [clauses, needs, h]
  ignored := by
    by_cases h : s.ignored = [] <;> simp [clauses, needs, h]
  autoCreate := by simp [clauses, needs]
  autoEvolve := by simp [clauses, needs]
  capitalize := by simp [clauses, needs]

theorem derives_tokens {s : Statement} (h : s.Expressible) : Derives s.tokens s := by
  obtain ⟨mode, hmode, hm⟩ :
      ∃ mode : Keyword, (mode = .insert ∨ mode = .upsert) ∧ s.mode = mode.text := by
    rcases h.mode with hm | hm
    · exact ⟨.insert, .inl rfl, hm⟩
    · exact ⟨.upsert, .inr rfl, hm⟩
  have hitems : ItemList (listed (s.items.map itemTokens)) s.items := by
    have := itemList_listed (items_ne_nil h.selects) fun item _ => item_itemTokens item
    rwa [List.map_id'] at this
  have hclauses : ClauseList (s.clauses.flatMap clauseTokens) s.clauses := by
    have hspelled : ∀ c ∈ s.clauses, ClauseOf (clauseTokens c) c := fun _ => clauseOf_clauseTokens
    have := clauseList_flatMap hspelled
    rwa [List.map_id'] at this
  rw [tokens, hm]
  exact .intro hmode (spells_keyword mode) (spells_keyword .into) (names_quoted _)
    (spells_keyword .select) hitems (count_all_items s) (spells_keyword .from) (names_quoted _)
    hclauses (nodup_kind_clauses s) (holds_parts s hm)

/-! ## The written form is read -/

/-- A token that may stand within a statement. -/
def Plain (t : Token) : Prop :=
  t.WellFormed ∧ .char ';' ∉ t.spelling

/-- Every spelling of a keyword is plain. -/
theorem plain_of_spells {t : Token} {k : Keyword} (h : t.Spells k) : Plain t := by
  obtain ⟨w, rfl, hw⟩ := h
  have hupper : ∀ c ∈ ofString k.text, c.is Char.isUpper = true := by
    cases k <;> decide
  have hchars : ∀ c ∈ w, c.is Token.isWordChar = true := by
    intro c hc
    refine Token.isWordChar_of_toUpper (hupper _ ?_)
    rw [← hw]
    exact List.mem_map_of_mem hc
  have hne : w ≠ [] := by
    rintro rfl
    cases k <;> exact absurd hw (by decide)
  exact ⟨⟨hne, hchars⟩, fun hsep => absurd (hchars _ hsep) (by decide)⟩

theorem plain_keyword (k : Keyword) : Plain (keyword k) :=
  plain_of_spells (spells_keyword k)

theorem plain_quoted {name : Text} (h : Quotable name) : Plain (.quoted name) := by
  obtain ⟨hne, hquote, hsep⟩ := h
  refine ⟨⟨hne, hquote⟩, ?_⟩
  simp [Token.spelling, hsep]
  decide

theorem plain_listed {parts : List (List Token)} (h : ∀ part ∈ parts, ∀ t ∈ part, Plain t) :
    ∀ t ∈ listed parts, Plain t := by
  have hcomma : Plain .comma := ⟨trivial, by decide⟩
  induction parts with
  | nil => simp [listed]
  | cons part parts ih =>
    simp only [List.mem_cons, forall_eq_or_imp] at h
    cases parts with
    | nil => simpa [listed] using h.1
    | cons part' parts =>
      have hrest := ih h.2
      simp only [listed, List.intercalate_cons_cons, List.mem_append, List.mem_singleton] at hrest ⊢
      rintro t ((ht | rfl) | ht)
      · exact h.1 t ht
      · exact hcomma
      · exact hrest t ht

theorem plain_nameTokens {names : List Text} (h : ∀ name ∈ names, Quotable name) :
    ∀ t ∈ nameTokens names, Plain t := by
  refine plain_listed fun part hpart t ht => ?_
  obtain ⟨name, hname, rfl⟩ := List.mem_map.mp hpart
  obtain rfl := List.mem_singleton.mp ht
  exact plain_quoted (h name hname)

theorem plain_itemTokens {s : Statement} (h : s.Expressible) {item : SelectItem}
    (hi : item ∈ s.items) : ∀ t ∈ itemTokens item, Plain t := by
  have hstar : Plain .star := ⟨trivial, by decide⟩
  simp only [items, List.mem_append, List.mem_map] at hi
  rcases hi with hi | ⟨p, hp, rfl⟩
  · obtain rfl : item = .all := by
      split at hi <;> simp_all
    simpa [itemTokens] using hstar
  · obtain ⟨hname, hcolumn⟩ := h.fields p hp
    simpa [itemTokens] using ⟨plain_quoted hname, plain_keyword .as, plain_quoted hcolumn⟩

theorem plain_clauseTokens {s : Statement} (h : s.Expressible) {c : Clause}
    (hc : c ∈ s.clauses) : ∀ t ∈ clauseTokens c, Plain t := by
  simp only [clauses, List.mem_filter, List.mem_cons, List.not_mem_nil, or_false] at hc
  rcases hc with ⟨rfl | rfl | rfl | rfl | rfl, -⟩
  · simpa [clauseTokens] using ⟨plain_keyword .ignore, plain_nameTokens h.ignored⟩
  · simpa [clauseTokens] using ⟨plain_keyword .pk, plain_nameTokens h.keys⟩
  · simpa [clauseTokens] using plain_keyword .autocreate
  · simpa [clauseTokens] using plain_keyword .autoevolve
  · simpa [clauseTokens] using plain_keyword .capitalize

theorem plain_tokens {s : Statement} (h : s.Expressible) : ∀ t ∈ s.tokens, Plain t := by
  have hmode : Plain (.word s.mode) := by
    rcases h.mode with hm | hm <;> rw [hm]
    · exact plain_keyword .insert
    · exact plain_keyword .upsert
  have hitems : ∀ t ∈ listed (s.items.map itemTokens), Plain t := by
    refine plain_listed fun part hpart => ?_
    obtain ⟨item, hi, rfl⟩ := List.mem_map.mp hpart
    exact plain_itemTokens h hi
  intro t ht
  simp only [tokens, List.mem_cons, List.mem_append, List.mem_flatMap] at ht
  rcases ht with rfl | rfl | rfl | rfl | ht | rfl | rfl | ⟨c, hc, ht⟩
  · exact hmode
  · exact plain_keyword .into
  · exact plain_quoted h.target
  · exact plain_keyword .select
  · exact hitems t ht
  · exact plain_keyword .from
  · exact plain_quoted h.source
  · exact plain_clauseTokens h hc t ht

/-- The tokens of a text without separators can stand within a statement. -/
theorem plain_of_scan {text : Text} {ts : List Token} (hsep : .char ';' ∉ text)
    (hscan : Token.scan text = .ok ts) : ∀ t ∈ ts, Plain t := by
  obtain ⟨l, hl, rfl, rfl⟩ := Token.exists_layout hscan
  intro t ht
  refine ⟨?_, fun hc => hsep (Token.mem_text_of_mem_spelling ht hc)⟩
  obtain ⟨p, hp, rfl⟩ := List.mem_map.mp ht
  exact hl.tokens p hp

/-- A text of plain tokens has no separator: none of its blanks is one. -/
theorem not_mem_separator_of_scan {text : Text} {ts : List Token}
    (hscan : Token.scan text = .ok ts) (h : ∀ t ∈ ts, Plain t) : .char ';' ∉ text := by
  obtain ⟨l, hl, rfl, rfl⟩ := Token.exists_layout hscan
  exact Token.not_mem_text hl (by decide) fun t ht => (h t ht).2

/-- Plain tokens are those of some text. -/
theorem exists_scan {ts : List Token} (h : ∀ t ∈ ts, Plain t) :
    ∃ text, Token.scan text = .ok ts :=
  ⟨Token.write ts, Token.scan_write fun t ht => (h t ht).1⟩

theorem parse_written {s : Statement} (h : s.Expressible) : parse s.written = .ok s := by
  have hplain := plain_tokens h
  refine parse_eq_ok_iff.mpr ⟨?_, s.tokens, ?_, ofTokens_eq_ok_iff.mpr (derives_tokens h)⟩
  · exact Token.not_mem_write (by decide) fun t ht => (hplain t ht).2
  · exact Token.scan_write fun t ht => (hplain t ht).1

/-! ## What is read can be written -/

/-- The names in the tokens of a text without separators. -/
theorem quotable_of_names {l : Token.Layout} (hl : l.Valid) (hsep : .char ';' ∉ l.text)
    {t : Token} (ht : t ∈ l.tokens) {name : Text} (hn : t.Names name) : Quotable name := by
  have hwf : t.WellFormed := by
    obtain ⟨p, hp, rfl⟩ := List.mem_map.mp ht
    exact hl.tokens p hp
  have hsep' : .char ';' ∉ t.spelling := fun hc => hsep (Token.mem_text_of_mem_spelling ht hc)
  rcases hn with rfl | ⟨rfl, -⟩
  · exact ⟨hwf.1, hwf.2, fun hc => hsep' (by simp [Token.spelling, hc])⟩
  · exact ⟨hwf.1, fun hc => absurd (hwf.2 _ hc) (by decide), hsep'⟩

theorem nameList_forall {P : Text → Prop} {ts : List Token} {names : List Text}
    (h : NameList ts names) (hp : ∀ t ∈ ts, ∀ name, t.Names name → P name) :
    ∀ name ∈ names, P name := by
  induction h with
  | one hn => simpa using hp _ (by simp) _ hn
  | cons hn _ ih =>
    simp only [List.mem_cons, forall_eq_or_imp]
    exact ⟨hp _ (by simp) _ hn, ih fun t ht => hp t (by simp [ht])⟩

/-- Every item of a list is spelled by some of its tokens. -/
theorem exists_item_of_mem {ts : List Token} {items : List SelectItem} (h : ItemList ts items)
    {item : SelectItem} (hi : item ∈ items) : ∃ used, used ⊆ ts ∧ Item used item := by
  induction h with
  | @one ts _ hitem =>
    obtain rfl := List.mem_singleton.mp hi
    exact ⟨ts, List.Subset.refl ts, hitem⟩
  | @cons ts _ ts' _ hitem _ ih =>
    rcases List.mem_cons.mp hi with rfl | hi
    · exact ⟨ts, List.subset_append_left _ _, hitem⟩
    · obtain ⟨used, hsub, hu⟩ := ih hi
      exact ⟨used, fun t ht => by simp [hsub ht], hu⟩

/-- Every clause of a list is spelled by some of its tokens. -/
theorem exists_clause_of_mem {ts : List Token} {clauses : List Clause} (h : ClauseList ts clauses)
    {c : Clause} (hc : c ∈ clauses) : ∃ used, used ⊆ ts ∧ ClauseOf used c := by
  induction h with
  | nil => cases hc
  | @cons ts _ ts' _ hclause _ ih =>
    rcases List.mem_cons.mp hc with rfl | hc
    · exact ⟨ts, List.subset_append_left _ _, hclause⟩
    · obtain ⟨used, hsub, hu⟩ := ih hc
      exact ⟨used, fun t ht => by simp [hsub ht], hu⟩

/-- The names in an item are those of its field and of its column. -/
theorem item_forall {P : Text → Prop} {ts : List Token} {name column : Text}
    (h : Item ts (.field name column)) (hp : ∀ t ∈ ts, ∀ name, t.Names name → P name) :
    P name ∧ P column := by
  cases h with
  | field hn => exact ⟨hp _ (by simp) _ hn, hp _ (by simp) _ hn⟩
  | renamed hn _ hu => exact ⟨hp _ (by simp) _ hn, hp _ (by simp) _ hu⟩

theorem selects_of_itemList {ts : List Token} {items : List SelectItem} (h : ItemList ts items) :
    .all ∈ items ∨ items.filterMap SelectItem.field? ≠ [] := by
  cases h with
  | @one _ item _ | @cons _ item _ _ _ _ =>
    cases item with
    | all => simp
    | field name column => simp [SelectItem.field?]

theorem field_mem_of_mem {items : List SelectItem} {p : Text × Text}
    (h : p ∈ items.filterMap SelectItem.field?) : .field p.1 p.2 ∈ items := by
  obtain ⟨item, hi, hf⟩ := List.mem_filterMap.mp h
  cases item with
  | all => cases hf
  | field name column =>
    cases hf
    exact hi

/-- The names in a statement. -/
def names (s : Statement) : List Text :=
  s.target :: s.source :: s.fields.flatMap (fun p => [p.1, p.2]) ++ s.keys ++ s.ignored

/-- The names in a statement are names among its tokens. -/
theorem names_forall {P : Text → Prop} {ts : List Token} {s : Statement} (h : Derives ts s)
    (hp : ∀ t ∈ ts, ∀ name, t.Names name → P name) : ∀ name ∈ s.names, P name := by
  obtain @⟨verb, into, table, select, from', stream, itemTokens, clauseTokens, mode, target,
    source, items, clauses, _, hmode, hverb, hinto, htable, hselect, hitems, hn, hfrom, hstream,
    hclauses, hd, hs⟩ := h
  have hclause {c : Clause} (hc : c ∈ clauses) :
      ∃ used, ClauseOf used c ∧ ∀ t ∈ used, ∀ name, t.Names name → P name := by
    obtain ⟨used, hsub, hu⟩ := exists_clause_of_mem hclauses hc
    exact ⟨used, hu, fun t ht => hp t (by simp [hsub ht])⟩
  have hfields : ∀ p ∈ s.fields, P p.1 ∧ P p.2 := by
    intro p hpf
    rw [hs.fields] at hpf
    obtain ⟨used, hsub, hitem⟩ := exists_item_of_mem hitems (field_mem_of_mem hpf)
    exact item_forall hitem fun t ht => hp t (by simp [hsub ht])
  have hkeys : ∀ name ∈ s.keys, P name := by
    rcases hs.keys with hmem | ⟨hnil, -⟩
    · obtain ⟨used, hc, hp'⟩ := hclause hmem
      cases hc with
      | keys _ hnames => exact nameList_forall hnames fun t ht => hp' t (by simp [ht])
    · simp [hnil]
  have hignored : ∀ name ∈ s.ignored, P name := by
    rcases hs.ignored with hmem | ⟨hnil, -⟩
    · obtain ⟨used, hc, hp'⟩ := hclause hmem
      cases hc with
      | ignored _ hnames => exact nameList_forall hnames fun t ht => hp' t (by simp [ht])
    · simp [hnil]
  intro name hname
  simp only [names, List.mem_append, List.mem_cons, List.mem_flatMap, List.not_mem_nil,
    or_false] at hname
  rcases hname with ((rfl | rfl | ⟨p, hpf, rfl | rfl⟩) | hname) | hname
  · rw [hs.target]
    exact hp table (by simp) target htable
  · rw [hs.source]
    exact hp stream (by simp) source hstream
  · exact (hfields p hpf).1
  · exact (hfields p hpf).2
  · exact hkeys name hname
  · exact hignored name hname

theorem mode_of_derives {ts : List Token} {s : Statement} (h : Derives ts s) :
    s.mode = ofString "INSERT" ∨ s.mode = ofString "UPSERT" := by
  cases h with
  | intro hmode _ _ _ _ _ _ _ _ _ _ hs =>
    rw [hs.mode]
    rcases hmode with rfl | rfl
    · exact .inl rfl
    · exact .inr rfl

/-- A statement is expressible where every name among its tokens can stand in
backquotes. -/
theorem expressible_of_derives {ts : List Token} {s : Statement} (h : Derives ts s)
    (hp : ∀ t ∈ ts, ∀ name, t.Names name → Quotable name) : s.Expressible := by
  have hnames : ∀ name ∈ s.names, Quotable name := names_forall h hp
  constructor
  case mode => exact mode_of_derives h
  case selects =>
    cases h with
    | intro _ _ _ _ _ hitems _ _ _ _ _ hs =>
      rw [hs.selectsAll, hs.fields]
      exact selects_of_itemList hitems
  case target => exact hnames s.target (by simp [names])
  case source => exact hnames s.source (by simp [names])
  case fields =>
    intro p hpf
    have hmem : ∀ name ∈ [p.1, p.2], name ∈ s.names := by
      intro name hname
      have hfields : name ∈ s.fields.flatMap fun p => [p.1, p.2] :=
        List.mem_flatMap.mpr ⟨p, hpf, hname⟩
      simp only [names, List.mem_append, List.mem_cons, hfields, or_true, true_or]
    exact ⟨hnames _ (hmem p.1 (by simp)), hnames _ (hmem p.2 (by simp))⟩
  case keys => exact fun name hname => hnames name (by simp [names, hname])
  case ignored => exact fun name hname => hnames name (by simp [names, hname])

theorem expressible_of_parse {text : Text} {s : Statement} (h : parse text = .ok s) :
    s.Expressible := by
  obtain ⟨hsep, ts, hscan, hts⟩ := parse_eq_ok_iff.mp h
  obtain ⟨l, hl, rfl, rfl⟩ := Token.exists_layout hscan
  exact expressible_of_derives (ofTokens_eq_ok_iff.mp hts) fun t ht name hn =>
    quotable_of_names hl hsep ht hn

/-- **Reading and writing are inverse.** A statement is read from some text
exactly where it is expressible, and then it is read from its written form,
whatever its names are. -/
theorem parse_iff_expressible (s : Statement) :
    ((∃ text, parse text = .ok s) ↔ s.Expressible) ∧
      (parse s.written = .ok s ↔ s.Expressible) :=
  ⟨⟨fun ⟨_, h⟩ => expressible_of_parse h, fun h => ⟨s.written, parse_written h⟩⟩,
    ⟨expressible_of_parse, parse_written⟩⟩

/-- A name may be a keyword, a mark or a line break. -/
example :
    written { target := "SELECT", source := "*", selectsAll := false, fields := [(",", "\n")],
              keys := ["PK"] } =
      "INSERT INTO \x60SELECT\x60 SELECT \x60,\x60 AS \x60\n\x60 FROM \x60*\x60 PK \x60PK\x60" := by
  decide

end Statement

end TableSink
