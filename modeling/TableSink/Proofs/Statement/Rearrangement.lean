/-
Statements whose parts stand in another order.

A draft keeps the phrases of a statement apart, each with the tokens that spell it, so
that they can be moved as they are. Its clauses may stand in any order, the star may
stand anywhere in the select list, and CAPITALIZENAMES is another word for CAPITALIZE
(`Draft.Step`): every such step leaves a draft that is sound, and says the same
(`Step.sound`, `Step.statement`), so any number of them does. A list of names ends at
the keyword of the next clause, whichever that is, so no clause takes in a part of
another. A clause of a kind that came before is refused by its keyword, wherever it
stands (`Draft.Repeats`).
-/
import TableSink.Proofs.Statement.Writing
import Mathlib.Logic.Relation

namespace TableSink

open Text Grammar Relation

namespace Statement

/-! ## Drafts -/

/-- A part of a statement with the tokens that spell it. -/
structure Phrase {α : Type} (Spells : List Token → α → Prop) where
  tokens : List Token
  part : α
  spelled : Spells tokens part

/-- The phrases of a statement, in the order in which they are written, and what its
words and names are. -/
structure Draft where
  verb : Token
  into : Token
  table : Token
  select : Token
  items : List (Phrase Item)
  from' : Token
  stream : Token
  clauses : List (Phrase ClauseOf)
  mode : Keyword
  target : Text
  source : Text

namespace Draft

/-- The tokens of a draft. -/
def tokens (d : Draft) : List Token :=
  d.verb :: d.into :: d.table :: d.select ::
    (listed (d.items.map (·.tokens)) ++
      d.from' :: d.stream :: d.clauses.flatMap (·.tokens))

/-- The statement that the phrases of a draft make. -/
def statement (d : Draft) : Statement :=
  ofParts d.mode.text d.target (d.items.map (·.part)) d.source (d.clauses.map (·.part))

/-- What the clauses are about. -/
def kinds (clauses : List (Phrase ClauseOf)) : List ClauseKind :=
  (clauses.map (·.part)).map Clause.kind

@[simp] theorem kinds_append (clauses clauses' : List (Phrase ClauseOf)) :
    kinds (clauses ++ clauses') = kinds clauses ++ kinds clauses' := by
  simp [kinds]

@[simp] theorem kinds_cons (c : Phrase ClauseOf) (clauses : List (Phrase ClauseOf)) :
    kinds (c :: clauses) = c.part.kind :: kinds clauses := rfl

/-- The rules that the phrases of a statement keep. -/
structure Sound (d : Draft) : Prop where
  mode : d.mode = .insert ∨ d.mode = .upsert
  verb : d.verb.Spells d.mode
  into : d.into.Spells .into
  table : d.table.Names d.target
  select : d.select.Spells .select
  selects : d.items ≠ []
  oneStar : (d.items.map (·.part)).count .all ≤ 1
  from' : d.from'.Spells .from
  stream : d.stream.Names d.source
  distinct : (kinds d.clauses).Nodup

/-- Whatever its clauses are, a draft is read up to them. -/
theorem Sound.ofTokens_eq_map {d : Draft} (h : d.Sound) (clauses : List (Phrase ClauseOf)) :
    ofTokens { d with clauses }.tokens =
      (readClauses [] (clauses.flatMap (·.tokens))).map
        (ofParts d.mode.text d.target (d.items.map (·.part)) d.source) := by
  have hitems : ItemList (listed (d.items.map (·.tokens))) (d.items.map (·.part)) :=
    itemList_listed h.selects fun item _ => item.spelled
  exact Statement.ofTokens_eq_map h.mode h.verb h.into h.table h.select hitems h.oneStar h.from'
    h.stream _

theorem clauseList (clauses : List (Phrase ClauseOf)) :
    ClauseList (clauses.flatMap (·.tokens)) (clauses.map (·.part)) :=
  clauseList_flatMap fun c _ => c.spelled

/-- A sound draft is read as the statement that it makes. -/
theorem Sound.ofTokens_eq_ok {d : Draft} (h : d.Sound) : ofTokens d.tokens = .ok d.statement := by
  have hread : readClauses [] (d.clauses.flatMap (·.tokens)) = .ok (d.clauses.map (·.part)) :=
    readClauses_complete (clauseList d.clauses) h.distinct (by simp)
  have heq := h.ofTokens_eq_map d.clauses
  rwa [hread] at heq

/-! ## Every statement has a draft -/

theorem exists_items {ts : List Token} {items : List SelectItem} (h : ItemList ts items) :
    ∃ ps : List (Phrase Item),
      ps ≠ [] ∧ listed (ps.map (·.tokens)) = ts ∧ ps.map (·.part) = items := by
  induction h with
  | @one ts item hi => exact ⟨[⟨ts, item, hi⟩], by simp, by simp [listed], rfl⟩
  | @cons ts item _ _ hi _ ih =>
    obtain ⟨ps, hne, rfl, rfl⟩ := ih
    obtain ⟨p, ps, rfl⟩ := List.exists_cons_of_ne_nil hne
    exact ⟨⟨ts, item, hi⟩ :: p :: ps, by simp, by simp [listed], rfl⟩

theorem exists_clauses {ts : List Token} {clauses : List Clause} (h : ClauseList ts clauses) :
    ∃ ps : List (Phrase ClauseOf), ps.flatMap (·.tokens) = ts ∧ ps.map (·.part) = clauses := by
  induction h with
  | nil => exact ⟨[], rfl, rfl⟩
  | @cons ts clause _ _ hc _ ih =>
    obtain ⟨ps, rfl, rfl⟩ := ih
    exact ⟨⟨ts, clause, hc⟩ :: ps, by simp, rfl⟩

theorem exists_of_derives {ts : List Token} {s : Statement} (h : Derives ts s) :
    ∃ d : Draft, d.Sound ∧ d.tokens = ts ∧ d.statement = s := by
  obtain @⟨verb, into, table, select, from', stream, _, _, mode, target, source, _, _, _, hmode,
    hverb, hinto, htable, hselect, hitems, hn, hfrom, hstream, hclauses, hd, hs⟩ := h
  obtain ⟨items, hne, rfl, rfl⟩ := exists_items hitems
  obtain ⟨clauses, rfl, rfl⟩ := exists_clauses hclauses
  refine ⟨⟨verb, into, table, select, items, from', stream, clauses, mode, target, source⟩, ?_,
    rfl, ((holds_iff_eq_ofParts hd).mp hs).symm⟩
  exact ⟨hmode, hverb, hinto, htable, hselect, hne, hn, hfrom, hstream, hd⟩

/-! ## Moving phrases -/

/-- One phrase is moved, or written in its other way. -/
inductive Step (d : Draft) : Draft → Prop
  /-- The clauses are put into another order. -/
  | permute {clauses} : d.clauses.Perm clauses → Step d { d with clauses }
  /-- CAPITALIZE is written for CAPITALIZENAMES, or the reverse. -/
  | respell {before c c' after} : d.clauses = before ++ c :: after → c.part = .capitalize →
      c'.part = .capitalize → Step d { d with clauses := before ++ c' :: after }
  /-- The star is put to another place, and the fields keep their order. -/
  | moveStar {before star after before' after'} : d.items = before ++ star :: after →
      star.part = .all → before ++ after = before' ++ after' →
      Step d { d with items := before' ++ star :: after' }

/-- An element may stand anywhere in a list. -/
theorem perm_of_append_eq {α : Type} (a : α) {before after before' after' : List α}
    (h : before ++ after = before' ++ after') :
    (before ++ a :: after).Perm (before' ++ a :: after') := by
  have hfront : (a :: (before ++ after)).Perm (before' ++ a :: after') := by
    rw [h]
    exact List.perm_middle.symm
  exact List.perm_middle.trans hfront

theorem Step.sound {d d' : Draft} (hstep : d.Step d') (h : d.Sound) : d'.Sound := by
  have hdistinct := h.distinct
  have honeStar := h.oneStar
  cases hstep with
  | permute hp =>
    have hkinds := (hp.map (·.part)).map Clause.kind
    exact { h with distinct := hkinds.nodup_iff.mp hdistinct }
  | respell hc hpart hpart' =>
    rw [hc, kinds_append, kinds_cons, hpart, ← hpart', ← kinds_cons, ← kinds_append] at hdistinct
    exact { h with distinct := hdistinct }
  | @moveStar before star after before' after' hi _ hrest =>
    have hcount := ((perm_of_append_eq star hrest).map (·.part)).count_eq .all
    rw [hi, hcount] at honeStar
    exact { h with selects := by simp, oneStar := honeStar }

/-- What a statement holds does not depend on the order of its clauses. -/
theorem holds_of_perm {s : Statement} {mode : Keyword} {target source : Text}
    {items : List SelectItem} {clauses clauses' : List Clause} (hp : clauses.Perm clauses')
    (h : Holds s mode target items source clauses) :
    Holds s mode target items source clauses' where
  mode := h.mode
  target := h.target
  source := h.source
  selectsAll := h.selectsAll
  fields := h.fields
  keys := by simpa only [hp.mem_iff] using h.keys
  ignored := by simpa only [hp.mem_iff] using h.ignored
  autoCreate := h.autoCreate.trans hp.mem_iff
  autoEvolve := h.autoEvolve.trans hp.mem_iff
  capitalize := h.capitalize.trans hp.mem_iff

theorem ofParts_of_perm {mode : Keyword} {target source : Text} {items : List SelectItem}
    {clauses clauses' : List Clause} (hp : clauses.Perm clauses')
    (hd : (clauses.map Clause.kind).Nodup) :
    ofParts mode.text target items source clauses' =
      ofParts mode.text target items source clauses := by
  have hd' : (clauses'.map Clause.kind).Nodup := (hp.map Clause.kind).nodup_iff.mp hd
  have hholds : Holds (ofParts mode.text target items source clauses) mode target items source
      clauses' := holds_of_perm hp ((holds_iff_eq_ofParts hd).mpr rfl)
  exact ((holds_iff_eq_ofParts hd').mp hholds).symm

theorem Step.statement {d d' : Draft} (hstep : d.Step d') (h : d.Sound) :
    d'.statement = d.statement := by
  cases hstep with
  | permute hp => exact ofParts_of_perm (hp.map (·.part)) h.distinct
  | respell hc hpart hpart' => simp [Draft.statement, hc, hpart, hpart']
  | @moveStar before star after before' after' hi hstar hrest =>
    -- The star is no field, so the fields are those of the items around it.
    have hfields {before after : List (Phrase Item)} :
        ((before ++ star :: after).map (·.part)).filterMap SelectItem.field? =
          ((before ++ after).map (·.part)).filterMap SelectItem.field? := by
      have hnone : SelectItem.all.field? = none := rfl
      simp only [List.map_append, List.map_cons, hstar, List.filterMap_append,
        List.filterMap_cons_none hnone]
    have hall := @List.Perm.any_eq _ _ _ SelectItem.isAll
      ((perm_of_append_eq star hrest).map (·.part))
    simp only [Draft.statement, ofParts, hi, hfields, hall, hrest]

/-- Moving phrases any number of times leaves what a draft says. -/
theorem sound_of_steps {d d' : Draft} (h : d.Sound) (hsteps : ReflTransGen Step d d') :
    d'.Sound ∧ d'.statement = d.statement := by
  induction hsteps with
  | refl => exact ⟨h, rfl⟩
  | tail _ hstep ih =>
    obtain ⟨hsound, heq⟩ := ih
    exact ⟨hstep.sound hsound, (hstep.statement hsound).trans heq⟩

/-! ## What is moved can stand in a text -/

theorem mem_listed {parts : List (List Token)} {part : List Token} (hpart : part ∈ parts)
    {t : Token} (ht : t ∈ part) : t ∈ listed parts := by
  induction parts with
  | nil => cases hpart
  | cons p parts ih =>
    cases parts with
    | nil =>
      obtain rfl := List.mem_singleton.mp hpart
      simpa [listed] using ht
    | cons p' parts =>
      simp only [listed, List.intercalate_cons_cons, List.mem_append] at ih ⊢
      rcases List.mem_cons.mp hpart with rfl | hpart
      · exact .inl (.inl ht)
      · exact .inr (ih hpart)

theorem plain_tokens_iff {d : Draft} :
    (∀ t ∈ d.tokens, Plain t) ↔
      (∀ t ∈ [d.verb, d.into, d.table, d.select, d.from', d.stream], Plain t) ∧
        (∀ item ∈ d.items, ∀ t ∈ item.tokens, Plain t) ∧
        ∀ c ∈ d.clauses, ∀ t ∈ c.tokens, Plain t := by
  have hitems : (∀ t ∈ listed (d.items.map (·.tokens)), Plain t) ↔
      ∀ item ∈ d.items, ∀ t ∈ item.tokens, Plain t := by
    constructor
    · intro h item hitem t ht
      exact h t (mem_listed (List.mem_map_of_mem hitem) ht)
    · intro h
      exact plain_listed (by simpa using h)
  have hclauses : (∀ t ∈ d.clauses.flatMap (·.tokens), Plain t) ↔
      ∀ c ∈ d.clauses, ∀ t ∈ c.tokens, Plain t := by
    simp only [List.mem_flatMap]
    exact ⟨fun h c hc t ht => h t ⟨c, hc, ht⟩, fun h t ⟨c, hc, ht⟩ => h c hc t ht⟩
  simp only [tokens, List.forall_mem_cons, List.forall_mem_append, hitems, hclauses]
  tauto

/-- CAPITALIZE and CAPITALIZENAMES are all that spells their clause. -/
theorem plain_of_capitalize {c : Phrase ClauseOf} (h : c.part = .capitalize) :
    ∀ t ∈ c.tokens, Plain t := by
  obtain ⟨tokens, clause, hspelled⟩ := c
  subst h
  cases hspelled with
  | capitalize ht | capitalizeNames ht => simpa using plain_of_spells ht

theorem Step.plain {d d' : Draft} (hstep : d.Step d') (h : ∀ t ∈ d.tokens, Plain t) :
    ∀ t ∈ d'.tokens, Plain t := by
  rw [plain_tokens_iff] at h ⊢
  obtain ⟨hhead, hitems, hclauses⟩ := h
  cases hstep with
  | permute hp => exact ⟨hhead, hitems, fun c hc => hclauses c (hp.mem_iff.mpr hc)⟩
  | @respell before c c' after hc hpart hpart' =>
    refine ⟨hhead, hitems, ?_⟩
    rw [hc, List.forall_mem_append, List.forall_mem_cons] at hclauses
    rw [List.forall_mem_append, List.forall_mem_cons]
    exact ⟨hclauses.1, plain_of_capitalize hpart', hclauses.2.2⟩
  | @moveStar before star after before' after' hi _ hrest =>
    have hp := perm_of_append_eq star hrest
    exact ⟨hhead, fun item hitem => hitems item (hi ▸ hp.mem_iff.mpr hitem), hclauses⟩

theorem plain_of_steps {d d' : Draft} (h : ∀ t ∈ d.tokens, Plain t)
    (hsteps : ReflTransGen Step d d') : ∀ t ∈ d'.tokens, Plain t := by
  induction hsteps with
  | refl => exact h
  | tail _ hstep ih => exact hstep.plain ih

/-! ## Clauses that come twice -/

/-- The keyword that a clause starts with. -/
def Opens (k : Keyword) (c : Phrase ClauseOf) : Prop :=
  ∃ t ∈ c.tokens.head?, t.Spells k

/-- A clause of a kind that is there already is added, and the later of the two starts
with the keyword. -/
inductive Repeats (d : Draft) (k : Keyword) : Draft → Prop
  /-- The second of the two is added. -/
  | behind {before first between second after} :
      d.clauses = before ++ first :: (between ++ after) → second.part.kind = first.part.kind →
      Opens k second →
      Repeats d k { d with clauses := before ++ first :: (between ++ second :: after) }
  /-- The first of the two is added. -/
  | ahead {before first between second after} :
      d.clauses = before ++ (between ++ second :: after) → second.part.kind = first.part.kind →
      Opens k second →
      Repeats d k { d with clauses := before ++ first :: (between ++ second :: after) }

/-- A clause starts with a keyword for its kind. -/
theorem opening_of_opens {c : Phrase ClauseOf} {k : Keyword} (h : Opens k c) :
    ∃ t rest, c.tokens = t :: rest ∧ opening? t = some (k, c.part.kind) := by
  obtain ⟨t, used, k', htokens, ht, hkind, -⟩ :=
    @readClauseBody_complete _ [] _ c.spelled (by simp)
  obtain ⟨u, hu, hk⟩ := h
  rw [htokens] at hu
  cases hu
  rw [hk.unique ht]
  exact ⟨t, used, htokens, opening_eq_some_iff.mpr ⟨ht, hkind⟩⟩

/-- A clause of a kind that came before is refused by its keyword. -/
theorem readClauses_of_repeated {before after : List (Phrase ClauseOf)} {c : Phrase ClauseOf}
    {k : Keyword} (hd : (kinds before).Nodup) (hseen : c.part.kind ∈ kinds before)
    (hk : Opens k c) :
    readClauses [] ((before ++ c :: after).flatMap (·.tokens)) = .error (.duplicate k) := by
  obtain ⟨t, rest, htokens, hopen⟩ := opening_of_opens hk
  have hne : t ≠ .comma := (opening_eq_some_iff.mp hopen).1.ne_comma
  rw [List.flatMap_append, List.flatMap_cons, htokens, List.cons_append,
    readClauses_append (clauseList before) hd (by simp) (by simpa using hne),
    readClauses_of_seen hopen (by simpa [kinds] using hseen)]
  rfl

theorem Repeats.ofTokens_eq_error {d d' : Draft} {k : Keyword} (hrep : d.Repeats k d')
    (h : d.Sound) : ofTokens d'.tokens = .error (.duplicate k) := by
  have hd := h.distinct
  -- The clauses ahead of the later one have no kind twice, but its kind once.
  have hread {before between after : List (Phrase ClauseOf)} {first second : Phrase ClauseOf}
      (hnodup : (kinds (before ++ first :: between)).Nodup)
      (hkind : second.part.kind = first.part.kind) (hk : Opens k second) :
      ofTokens { d with clauses := before ++ first :: (between ++ second :: after) }.tokens =
        .error (.duplicate k) := by
    have hseen : second.part.kind ∈ kinds (before ++ first :: between) := by simp [hkind]
    have hclauses : readClauses [] ((before ++ first :: between ++ second :: after).flatMap
        (·.tokens)) = .error (.duplicate k) := readClauses_of_repeated hnodup hseen hk
    rw [List.append_assoc, List.cons_append] at hclauses
    rw [h.ofTokens_eq_map, hclauses]
    rfl
  cases hrep with
  | @behind before first between second after hc hkind hk =>
    refine hread ?_ hkind hk
    rw [hc, ← List.cons_append, ← List.append_assoc, kinds_append] at hd
    exact hd.of_append_left
  | @ahead before first between second after hc hkind hk =>
    refine hread ?_ hkind hk
    rw [hc, ← List.append_assoc, kinds_append, kinds_cons, List.nodup_middle,
      ← List.cons_append] at hd
    rw [kinds_append, kinds_cons, ← hkind, List.nodup_middle, ← kinds_append]
    exact hd.of_append_left

end Draft

/-! ## Texts -/

/-- **The order of the clauses does not matter, and no clause may come twice.** The
tokens of a statement are those of some draft. Where clauses are put into another
order, CAPITALIZE and CAPITALIZENAMES are written for each other and the star is moved
within the select list, some text has the tokens that this gives, and every such text
is read as the same statement. Where a clause of a kind that is there already is added
among the clauses, the text is refused for it, by the keyword of the later one. -/
theorem parse_rearranged {text : Text} {s : Statement} (h : parse text = .ok s) :
    (∃ d : Draft, d.Sound ∧ Token.scan text = .ok d.tokens) ∧
    ∀ d : Draft, d.Sound → Token.scan text = .ok d.tokens →
      (∀ d', ReflTransGen Draft.Step d d' →
        (∃ text', Token.scan text' = .ok d'.tokens) ∧
          ∀ text', Token.scan text' = .ok d'.tokens → parse text' = .ok s) ∧
      ∀ k d', d.Repeats k d' → ∀ text', .char ';' ∉ text' → Token.scan text' = .ok d'.tokens →
        (parse text').mapError ParseError.reason =
          .error ("Duplicate " ++ k.text ++ " clause") := by
  obtain ⟨hsep, ts, hscan, hts⟩ := parse_eq_ok_iff.mp h
  refine ⟨?_, fun d hd hscand => ⟨fun d' hsteps => ?_, fun k d' hrep text' hsep' hscan' => ?_⟩⟩
  · obtain ⟨d, hd, rfl, -⟩ := Draft.exists_of_derives (ofTokens_eq_ok_iff.mp hts)
    exact ⟨d, hd, hscan⟩
  · obtain ⟨hd', hsame⟩ := Draft.sound_of_steps hd hsteps
    have hplain := Draft.plain_of_steps (plain_of_scan hsep hscand) hsteps
    have hs : d.statement = s := by
      rw [hscand] at hscan
      cases hscan
      rw [hd.ofTokens_eq_ok] at hts
      cases hts
      rfl
    refine ⟨exists_scan hplain, fun text' hscan' => ?_⟩
    rw [← hs, ← hsame]
    exact parse_eq_ok_iff.mpr
      ⟨not_mem_separator_of_scan hscan' hplain, _, hscan', hd'.ofTokens_eq_ok⟩
  · rw [parse_of_scan hsep' hscan' (by cases hrep <;> simp [Draft.tokens]),
      hrep.ofTokens_eq_error hd]
    rfl

def starItem : Phrase Item :=
  ⟨[.star], .all, .all⟩

def fieldItem : Phrase Item :=
  ⟨[.word "a"], .field "a" "a", .field (Token.name?_eq_some_iff.mp (by decide))⟩

def keysClause : Phrase ClauseOf where
  tokens := [keyword .pk, .word "a", .comma, .word "b"]
  part := .keys ["a", "b"]
  spelled := .keys (spells_keyword .pk)
    (.cons (Token.name?_eq_some_iff.mp (by decide)) (.one (Token.name?_eq_some_iff.mp (by decide))))

def capitalizeClause : Phrase ClauseOf :=
  ⟨[keyword .capitalize], .capitalize, .capitalize (spells_keyword .capitalize)⟩

def capitalizeNamesClause : Phrase ClauseOf :=
  ⟨[keyword .capitalizenames], .capitalize, .capitalizeNames (spells_keyword .capitalizenames)⟩

/-- UPSERT INTO t SELECT … FROM s …, in phrases. -/
def upsertDraft (items : List (Phrase Item)) (clauses : List (Phrase ClauseOf)) : Draft where
  verb := keyword .upsert
  into := keyword .into
  table := .word "t"
  select := keyword .select
  items := items
  from' := keyword .from
  stream := .word "s"
  clauses := clauses
  mode := .upsert
  target := "t"
  source := "s"

/-- UPSERT INTO t SELECT *, a FROM s PK a, b CAPITALIZE, in phrases. -/
def capitalDraft : Draft :=
  upsertDraft [starItem, fieldItem] [keysClause, capitalizeClause]

theorem sound_capitalDraft : capitalDraft.Sound where
  mode := .inr rfl
  verb := spells_keyword .upsert
  into := spells_keyword .into
  table := Token.name?_eq_some_iff.mp (by decide)
  select := spells_keyword .select
  selects := List.cons_ne_nil _ _
  oneStar := by decide
  from' := spells_keyword .from
  stream := Token.name?_eq_some_iff.mp (by decide)
  distinct := by decide

/-- The star goes to the end, the other word is written for CAPITALIZE, and the clauses
change places; with a third clause the later word for capital letters is refused. -/
theorem parse_rearranged_capitalize :
    parse "UPSERT INTO t SELECT *, a FROM s PK a, b CAPITALIZE" = .ok capitalDraft.statement ∧
    parse "UPSERT INTO t SELECT a, * FROM s CAPITALIZENAMES PK a, b" =
      .ok capitalDraft.statement ∧
    (parse "UPSERT INTO t SELECT *, a FROM s CAPITALIZENAMES PK a, b CAPITALIZE").mapError
      ParseError.reason = .error "Duplicate CAPITALIZE clause" := by
  have h : parse "UPSERT INTO t SELECT *, a FROM s PK a, b CAPITALIZE" =
      .ok capitalDraft.statement := by with_unfolding_all rfl
  obtain ⟨-, hall⟩ := parse_rearranged h
  obtain ⟨hmoved, hrepeated⟩ := hall capitalDraft sound_capitalDraft (by with_unfolding_all rfl)
  have hitems : [starItem, fieldItem] = [] ++ starItem :: [fieldItem] := rfl
  have hplace : [] ++ [fieldItem] = [fieldItem] ++ [] := rfl
  have hlast : [keysClause, capitalizeClause] = [keysClause] ++ capitalizeClause :: [] := rfl
  have hstar : capitalDraft.Step
      (upsertDraft [fieldItem, starItem] [keysClause, capitalizeClause]) :=
    .moveStar hitems rfl hplace
  have hword : (upsertDraft [fieldItem, starItem] [keysClause, capitalizeClause]).Step
      (upsertDraft [fieldItem, starItem] ([keysClause] ++ capitalizeNamesClause :: [])) :=
    .respell hlast rfl rfl
  have hswap : (upsertDraft [fieldItem, starItem] [keysClause, capitalizeNamesClause]).Step
      (upsertDraft [fieldItem, starItem] [capitalizeNamesClause, keysClause]) :=
    .permute (.swap _ _ _)
  have hsteps := ReflTransGen.single hstar |>.tail hword |>.tail hswap
  have hrep : capitalDraft.Repeats .capitalize (upsertDraft [starItem, fieldItem]
      ([] ++ capitalizeNamesClause :: ([keysClause] ++ capitalizeClause :: []))) :=
    .ahead hlast rfl ⟨_, rfl, spells_keyword .capitalize⟩
  refine ⟨h, (hmoved _ hsteps).2 _ (by with_unfolding_all rfl), ?_⟩
  exact hrepeated _ _ hrep _ (by decide) (by with_unfolding_all rfl)

end Statement

end TableSink
