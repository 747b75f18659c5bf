/-
The reader accepts the grammar, and nothing else.

Each step of the reader is matched with the part of the grammar that it reads:
what it takes off the front of the tokens derives what it answers (the
`..._sound` half), and whatever derives an answer is taken off in one piece
(the `..._complete` half). The second half needs to know where a part ends. A
list of names ends where no comma follows; a field without AS ends where no AS
follows.
-/
import TableSink.Proofs.Except
import TableSink.Proofs.Statement.Grammar
import TableSink.Proofs.Statement.Layout
import TableSink.Statement.Parser
import Mathlib.Data.List.Nodup

namespace TableSink

open Text

/-! ## Words and names -/

theorem Keyword.text_injective {k k' : Keyword} (h : ofString k.text = ofString k'.text) :
    k = k' := by
  have hd : (all.map fun k => ofString k.text).Nodup := by decide
  exact List.inj_on_of_nodup_map hd (mem_all k) (mem_all k') h

theorem Keyword.ofWord?_eq_some_iff {w : Text} {k : Keyword} :
    ofWord? w = some k ↔ w.map (·.map Char.toUpper) = k.text := by
  have text_eq {k : Keyword} (h : ofWord? w = some k) :
      ofString k.text = w.map (·.map Char.toUpper) := by
    rw [ofWord?] at h
    have hk := List.find?_some h
    exact eq_of_beq hk
  constructor
  · exact fun h => (text_eq h).symm
  · intro h
    have hsome : (ofWord? w).isSome = true := by
      simp only [ofWord?, List.find?_isSome, h, beq_iff_eq]
      exact ⟨k, mem_all k, rfl⟩
    obtain ⟨k', hk'⟩ := Option.isSome_iff_exists.mp hsome
    rw [hk', text_injective ((text_eq hk').trans h)]

namespace Token

theorem keyword?_eq_some_iff {t : Token} {k : Keyword} : t.keyword? = some k ↔ t.Spells k := by
  cases t with
  | word w => simp [keyword?, Spells, Keyword.ofWord?_eq_some_iff]
  | quoted _ | star | comma => simp [keyword?, Spells]

theorem name?_eq_some_iff {t : Token} {name : Text} : t.name? = some name ↔ t.Names name := by
  cases t with
  | word w =>
    have hnone : (Keyword.ofWord? w).isNone = true ↔ ∀ k, ¬ (word w).Spells k := by
      simp only [← keyword?_eq_some_iff, keyword?, Option.isNone_iff_eq_none,
        Option.eq_none_iff_forall_ne_some, ne_eq]
    simp only [name?, Names, reduceCtorEq, false_or, word.injEq, ← hnone]
    split <;> simp_all
  | quoted _ | star | comma => simp [name?, Names]

theorem Spells.unique {t : Token} {k k' : Keyword} (h : t.Spells k) (h' : t.Spells k') :
    k = k' := by
  rw [← keyword?_eq_some_iff] at h h'
  exact Option.some.inj (h.symm.trans h')

theorem Spells.ne_comma {t : Token} {k : Keyword} (h : t.Spells k) : t ≠ .comma := by
  obtain ⟨w, rfl, -⟩ := h
  simp

theorem not_spells_star {k : Keyword} : ¬star.Spells k := by
  intro h
  obtain ⟨w, hw, -⟩ := h
  cases hw

theorem Names.unique {t : Token} {name name' : Text} (h : t.Names name) (h' : t.Names name') :
    name = name' := by
  rw [← name?_eq_some_iff] at h h'
  exact Option.some.inj (h.symm.trans h')

theorem Names.ne_comma {t : Token} {name : Text} (h : t.Names name) : t ≠ .comma := by
  rcases h with rfl | ⟨rfl, -⟩ <;> simp

theorem Names.ne_star {t : Token} {name : Text} (h : t.Names name) : t ≠ .star := by
  rcases h with rfl | ⟨rfl, -⟩ <;> simp

end Token

open Grammar

namespace Statement

theorem isAs_iff {t : Token} : isAs t = true ↔ t.Spells .as := by
  simp [isAs, Token.keyword?_eq_some_iff]

theorem readKeyword_eq_ok_iff {choices : List Keyword} {ts rest : List Token} {k : Keyword} :
    readKeyword choices ts = .ok (k, rest) ↔ k ∈ choices ∧ ∃ t, t.Spells k ∧ ts = t :: rest := by
  cases ts with
  | nil => simp [readKeyword]
  | cons t ts =>
    simp only [readKeyword, List.cons.injEq, ← Token.keyword?_eq_some_iff]
    split
    · next k' hk => grind
    · next hk => grind

theorem readName_eq_ok_iff {e : Expected} {ts rest : List Token} {name : Text} :
    readName e ts = .ok (name, rest) ↔ ∃ t, t.Names name ∧ ts = t :: rest := by
  cases ts with
  | nil => simp [readName]
  | cons t ts =>
    simp only [readName, List.cons.injEq, ← Token.name?_eq_some_iff]
    split
    · next n hn => grind
    · next hn => grind

/-! ## Lists of names -/

theorem readNames_sound {e : Expected} {ts rest : List Token} {names : List Text}
    (h : readNames e ts = .ok (names, rest)) :
    ∃ used, NameList used names ∧ ts = used ++ rest ∧ rest.head? ≠ some .comma := by
  fun_induction readNames e ts generalizing names rest with
  | case1 => cases h
  | case2 t ts name hn ih =>
    obtain ⟨⟨names, rest⟩, hr, he⟩ := Except.map_eq_ok_iff.mp h
    cases he
    obtain ⟨used, hu, rfl, hc⟩ := ih hr
    exact ⟨_, .cons (Token.name?_eq_some_iff.mp hn) hu, rfl, hc⟩
  | case3 => cases h
  | case4 t ts hc name hn =>
    cases h
    refine ⟨[t], .one (Token.name?_eq_some_iff.mp hn), rfl, fun hh => ?_⟩
    obtain ⟨ts, rfl⟩ := List.head?_eq_some_iff.mp hh
    exact hc _ rfl
  | case5 => cases h

theorem readNames_complete {e : Expected} {used rest : List Token} {names : List Text}
    (h : NameList used names) (hc : rest.head? ≠ some .comma) :
    readNames e (used ++ rest) = .ok (names, rest) := by
  induction h with
  | one hn =>
    rw [← Token.name?_eq_some_iff] at hn
    rw [List.singleton_append, readNames]
    · simp [hn]
    · rintro ts rfl
      exact hc rfl
  | cons hn _ ih =>
    rw [← Token.name?_eq_some_iff] at hn
    simp only [List.cons_append, readNames, hn, ih]
    rfl

/-! ## Select lists -/

theorem readField_sound {ts rest : List Token} {item : SelectItem}
    (h : readField ts = .ok (item, rest)) :
    ∃ used, Item used item ∧ ts = used ++ rest ∧ item ≠ .all := by
  cases ts with
  | nil => cases h
  | cons t ts =>
    simp only [readField] at h
    split at h
    · cases h
    next name hn =>
      rw [Token.name?_eq_some_iff] at hn
      split at h
      · cases h
        exact ⟨[t], .field hn, rfl, by simp⟩
      next a ts' =>
        split at h
        next ha =>
          obtain ⟨⟨column, rest⟩, hr, he⟩ := Except.map_eq_ok_iff.mp h
          cases he
          obtain ⟨u, hu, rfl⟩ := readName_eq_ok_iff.mp hr
          exact ⟨[t, a, u], .renamed hn (isAs_iff.mp ha) hu, rfl, by simp⟩
        next =>
          cases h
          exact ⟨[t], .field hn, rfl, by simp⟩

theorem readItem_sound {starred : Bool} {ts rest : List Token} {item : SelectItem}
    (h : readItem starred ts = .ok (item, rest)) :
    ∃ used, Item used item ∧ ts = used ++ rest ∧ (item = .all → starred = false) := by
  rw [readItem.eq_def] at h
  split at h
  next =>
    split at h
    · cases h
    next hs =>
      cases h
      exact ⟨[.star], .all, rfl, fun _ => by simpa using hs⟩
  next =>
    obtain ⟨used, hu, rfl, hne⟩ := readField_sound h
    exact ⟨used, hu, rfl, fun he => absurd he hne⟩

theorem readItem_of_ne_star {t : Token} (ht : t ≠ .star) (starred : Bool) (ts : List Token) :
    readItem starred (t :: ts) = readField (t :: ts) := by
  rw [readItem]
  rintro ts' he
  cases he
  exact ht rfl

theorem readItem_complete {starred : Bool} {used rest : List Token} {item : SelectItem}
    (h : Item used item) (hs : item = .all → starred = false)
    (ha : ∀ t ∈ rest.head?, ¬ t.Spells .as) :
    readItem starred (used ++ rest) = .ok (item, rest) := by
  cases h with
  | all => simp [readItem, hs rfl]
  | field hn =>
    rw [List.singleton_append, readItem_of_ne_star hn.ne_star, readField,
      Token.name?_eq_some_iff.mpr hn]
    cases rest with
    | nil => rfl
    | cons a rest =>
      have : ¬ isAs a = true := fun hi => ha a rfl (isAs_iff.mp hi)
      simp [this]
  | renamed hn has hu =>
    simp only [List.cons_append, List.nil_append]
    rw [readItem_of_ne_star hn.ne_star, readField, Token.name?_eq_some_iff.mpr hn]
    simp only [isAs_iff.mpr has, if_true]
    rw [readName_eq_ok_iff.mpr ⟨_, hu, rfl⟩]
    rfl

/-- A comma carries the select list on. -/
theorem readItems_of_comma {starred : Bool} {ts rest : List Token} {item : SelectItem}
    (h : readItem starred ts = .ok (item, .comma :: rest)) :
    readItems starred ts =
      (readItems (starred || item.isAll) rest).map fun (items, rest) => (item :: items, rest) := by
  rw [readItems]
  split
  · next he => rw [h] at he; cases he
  · next he => rw [h] at he; cases he; rfl
  · next hn he => rw [h] at he; cases he; exact (hn _ rfl).elim

/-- Every other token ends it. -/
theorem readItems_of_stop {starred : Bool} {ts rest : List Token} {item : SelectItem}
    (h : readItem starred ts = .ok (item, rest)) (hc : rest.head? ≠ some .comma) :
    readItems starred ts = .ok ([item], rest) := by
  rw [readItems]
  split
  · next he => rw [h] at he; cases he
  · next he => rw [h] at he; cases he; exact absurd rfl hc
  · next he => rw [h] at he; cases he; rfl

/-- A list of items has one star at most where its first is none after a star
and the rest has none after either. -/
theorem count_all_cons_le {starred : Bool} {item : SelectItem} {items : List SelectItem} :
    (item :: items).count .all + starred.toNat ≤ 1 ↔
      (item = .all → starred = false) ∧ items.count .all + (starred || item.isAll).toNat ≤ 1 := by
  cases item <;> cases starred <;> simp [SelectItem.isAll]

theorem readItems_sound {starred : Bool} {ts rest : List Token} {items : List SelectItem}
    (h : readItems starred ts = .ok (items, rest)) :
    ∃ used, ItemList used items ∧ ts = used ++ rest ∧ rest.head? ≠ some .comma ∧
      items.count .all + starred.toNat ≤ 1 := by
  fun_induction readItems starred ts generalizing items rest with
  | case1 => cases h
  | case2 starred ts item rest' hi ih =>
    obtain ⟨⟨items, rest⟩, hr, he⟩ := Except.map_eq_ok_iff.mp h
    cases he
    obtain ⟨used, hu, rfl, hc, hn⟩ := ih hr
    obtain ⟨first, hf, rfl, hs⟩ := readItem_sound hi
    exact ⟨_, .cons hf hu, by simp, hc, count_all_cons_le.mpr ⟨hs, hn⟩⟩
  | case3 starred ts item rest' hc hi =>
    cases h
    obtain ⟨first, hf, rfl, hs⟩ := readItem_sound hi
    refine ⟨first, .one hf, rfl, fun hh => ?_, count_all_cons_le.mpr ⟨hs, ?_⟩⟩
    · obtain ⟨rest, rfl⟩ := List.head?_eq_some_iff.mp hh
      exact hc _ rfl
    · simpa using Bool.toNat_le _

theorem readItems_complete {starred : Bool} {used rest : List Token} {items : List SelectItem}
    (h : ItemList used items) (hn : items.count .all + starred.toNat ≤ 1)
    (hc : rest.head? ≠ some .comma) (ha : ∀ t ∈ rest.head?, ¬ t.Spells .as) :
    readItems starred (used ++ rest) = .ok (items, rest) := by
  induction h generalizing starred with
  | one hi =>
    obtain ⟨hs, -⟩ := count_all_cons_le.mp hn
    exact readItems_of_stop (readItem_complete hi hs ha) hc
  | @cons ts item ts' items hi _ ih =>
    obtain ⟨hs, hrest⟩ := count_all_cons_le.mp hn
    have hcomma : ∀ t ∈ (Token.comma :: (ts' ++ rest)).head?, ¬ t.Spells .as := by
      simp only [List.head?_cons, Option.mem_some_iff, forall_eq']
      exact fun h => h.ne_comma rfl
    rw [List.append_assoc, List.cons_append,
      readItems_of_comma (readItem_complete hi hs hcomma), ih hrest]
    rfl

/-! ## Clauses -/

/-- The clause that a token opens. -/
abbrev opening? (t : Token) : Option (Keyword × ClauseKind) :=
  t.keyword?.bind fun k => (clauseKind? k).map (k, ·)

theorem opening_eq_some_iff {t : Token} {k : Keyword} {kind : ClauseKind} :
    opening? t = some (k, kind) ↔ t.Spells k ∧ clauseKind? k = some kind := by
  simp only [Option.bind_eq_some_iff, Option.map_eq_some_iff, Prod.mk.injEq,
    Token.keyword?_eq_some_iff]
  grind

section Opening

variable {seen : List ClauseKind} {t : Token} {ts : List Token} {k : Keyword} {kind : ClauseKind}

theorem readClauses_of_not_opening (h : opening? t = none) :
    readClauses seen (t :: ts) = .error (.found (.keyword clauseKeywords) t) := by
  rw [readClauses]
  split
  · rfl
  · next h' => cases h.symm.trans h'

theorem readClauses_of_seen (h : opening? t = some (k, kind)) (hseen : kind ∈ seen) :
    readClauses seen (t :: ts) = .error (.duplicate k) := by
  rw [readClauses]
  split
  · next h' => cases h.symm.trans h'
  · next h' =>
    cases h.symm.trans h'
    rw [if_pos hseen]

theorem readClauses_of_opening (h : opening? t = some (k, kind)) (hseen : kind ∉ seen) :
    readClauses seen (t :: ts) =
      readClauseBody kind ts >>= fun p => (readClauses (kind :: seen) p.2).map (p.1 :: ·) := by
  rw [readClauses]
  split
  · next h' => cases h.symm.trans h'
  · next h' =>
    cases h.symm.trans h'
    rw [if_neg hseen]
    split
    · next hb => rw [hb]; rfl
    · next hb => rw [hb]; rfl

end Opening

theorem readClauseBody_sound {t : Token} {ts rest : List Token} {k : Keyword} {kind : ClauseKind}
    {clause : Clause} (ht : t.Spells k) (hk : clauseKind? k = some kind)
    (h : readClauseBody kind ts = .ok (clause, rest)) :
    ∃ used, ClauseOf (t :: used) clause ∧ ts = used ++ rest ∧ clause.kind = kind := by
  cases kind with
  | ignored =>
    obtain ⟨⟨names, rest⟩, hr, he⟩ := Except.map_eq_ok_iff.mp h
    cases he
    obtain ⟨used, hu, rfl, -⟩ := readNames_sound hr
    cases k <;> cases hk
    exact ⟨used, .ignored ht hu, rfl, rfl⟩
  | keys =>
    obtain ⟨⟨names, rest⟩, hr, he⟩ := Except.map_eq_ok_iff.mp h
    cases he
    obtain ⟨used, hu, rfl, -⟩ := readNames_sound hr
    cases k <;> cases hk
    exact ⟨used, .keys ht hu, rfl, rfl⟩
  | autoCreate =>
    cases h
    cases k <;> cases hk
    exact ⟨[], .autoCreate ht, rfl, rfl⟩
  | autoEvolve =>
    cases h
    cases k <;> cases hk
    exact ⟨[], .autoEvolve ht, rfl, rfl⟩
  | capitalize =>
    cases h
    cases k <;> cases hk
    · exact ⟨[], .capitalize ht, rfl, rfl⟩
    · exact ⟨[], .capitalizeNames ht, rfl, rfl⟩

/-- A clause starts with a keyword for its kind, and what follows is read back. -/
theorem readClauseBody_complete {ts rest : List Token} {clause : Clause} (h : ClauseOf ts clause)
    (hc : rest.head? ≠ some .comma) :
    ∃ t used k, ts = t :: used ∧ t.Spells k ∧ clauseKind? k = some clause.kind ∧
      readClauseBody clause.kind (used ++ rest) = .ok (clause, rest) := by
  cases h with
  | ignored ht hn =>
    refine ⟨_, _, _, rfl, ht, rfl, ?_⟩
    rw [Clause.kind, readClauseBody, readNames_complete hn hc]
    rfl
  | keys ht hn =>
    refine ⟨_, _, _, rfl, ht, rfl, ?_⟩
    rw [Clause.kind, readClauseBody, readNames_complete hn hc]
    rfl
  | autoCreate ht | autoEvolve ht | capitalize ht | capitalizeNames ht =>
    exact ⟨_, _, _, rfl, ht, rfl, rfl⟩

theorem head_clauseList {ts : List Token} {clauses : List Clause} (h : ClauseList ts clauses) :
    ts.head? ≠ some .comma := by
  cases h with
  | nil => simp
  | cons hc _ =>
    obtain ⟨t, used, k, rfl, ht, -⟩ := @readClauseBody_complete _ [] _ hc (by simp)
    simpa using ht.ne_comma

theorem readClauses_sound {seen : List ClauseKind} {ts : List Token} {clauses : List Clause}
    (h : readClauses seen ts = .ok clauses) :
    ClauseList ts clauses ∧ (clauses.map Clause.kind).Nodup ∧ ∀ c ∈ clauses, c.kind ∉ seen := by
  fun_induction readClauses seen ts generalizing clauses with
  | case1 => cases h; exact ⟨.nil, by simp, by simp⟩
  | case2 => cases h
  | case3 => cases h
  | case4 => cases h
  | case5 seen t ts k kind hk hseen clause rest hb ih =>
    obtain ⟨clauses, hr, rfl⟩ := Except.map_eq_ok_iff.mp h
    obtain ⟨hl, hd, hs⟩ := ih hr
    obtain ⟨ht, hk⟩ := opening_eq_some_iff.mp hk
    obtain ⟨used, hc, rfl, rfl⟩ := readClauseBody_sound ht hk hb
    simp only [List.mem_cons, not_or] at hs
    refine ⟨.cons hc hl, ?_, ?_⟩
    · simp only [List.map_cons, List.nodup_cons, List.mem_map, not_exists, not_and]
      exact ⟨fun c hm => (hs c hm).1, hd⟩
    · simp only [List.mem_cons, forall_eq_or_imp]
      exact ⟨hseen, fun c hm => (hs c hm).2⟩

/-- Clauses are read from the front, whatever stands behind them, and their kinds are
remembered. -/
theorem readClauses_append {seen : List ClauseKind} {ts rest : List Token}
    {clauses : List Clause} (h : ClauseList ts clauses) (hd : (clauses.map Clause.kind).Nodup)
    (hs : ∀ c ∈ clauses, c.kind ∉ seen) (hc : rest.head? ≠ some .comma) :
    readClauses seen (ts ++ rest) =
      (readClauses ((clauses.map Clause.kind).reverse ++ seen) rest).map (clauses ++ ·) := by
  induction h generalizing seen with
  | nil => exact (congrFun Except.map_id _).symm
  | @cons ts clause ts' clauses hclause hl ih =>
    have hhead : (ts' ++ rest).head? ≠ some .comma := by
      cases ts' with
      | nil => exact hc
      | cons t ts' => simpa using head_clauseList hl
    obtain ⟨t, used, k, rfl, ht, hk, hb⟩ := readClauseBody_complete hclause hhead
    simp only [List.map_cons, List.nodup_cons, List.mem_map, not_exists, not_and] at hd
    simp only [List.mem_cons, forall_eq_or_imp] at hs
    have hrest : ∀ c ∈ clauses, c.kind ∉ clause.kind :: seen := fun c hm => by
      simpa using ⟨hd.1 c hm, hs.2 c hm⟩
    rw [List.append_assoc, List.cons_append,
      readClauses_of_opening (opening_eq_some_iff.mpr ⟨ht, hk⟩) hs.1, hb]
    simp only [bind, Except.bind, ih hd.2 hrest, Except.map_map, List.map_cons,
      List.reverse_cons, List.append_assoc, List.cons_append, List.nil_append]
    rfl

theorem readClauses_complete {seen : List ClauseKind} {ts : List Token} {clauses : List Clause}
    (h : ClauseList ts clauses) (hd : (clauses.map Clause.kind).Nodup)
    (hs : ∀ c ∈ clauses, c.kind ∉ seen) : readClauses seen ts = .ok clauses := by
  have hread := @readClauses_append seen ts [] clauses h hd hs (by simp)
  rwa [List.append_nil, readClauses, Except.map, List.append_nil] at hread

/-! ## What the clauses say -/

section Names

variable {mk : List Text → Clause} {names : Clause → List Text} {kind : ClauseKind}
  {clauses : List Clause} {ns : List Text}

/-- Where no kind of clause comes twice, the names of a kind are those of its
one clause. -/
theorem flatMap_of_mem (hother : ∀ c, c.kind ≠ kind → names c = [])
    (hd : (clauses.map Clause.kind).Nodup) {c : Clause} (hc : c ∈ clauses) (hk : c.kind = kind) :
    clauses.flatMap names = names c := by
  induction clauses with
  | nil => cases hc
  | cons d clauses ih =>
    simp only [List.map_cons, List.nodup_cons, List.mem_map, not_exists, not_and] at hd
    rw [List.flatMap_cons]
    rcases List.mem_cons.mp hc with rfl | hc
    · have hnil : clauses.flatMap names = [] := by
        simpa using fun d hdm => hother d fun hdk => hd.1 d hdm (hdk.trans hk.symm)
      rw [hnil, List.append_nil]
    · rw [hother d fun hdk => hd.1 c hc (hk.trans hdk.symm), ih hd.2 hc, List.nil_append]

/-- What is collected from the clauses of a kind is what its clause holds, and
nothing where there is none. -/
theorem eq_flatMap_iff (kind : ClauseKind) (hmk : ∀ c, c.kind = kind ↔ ∃ ns, c = mk ns)
    (hnames : ∀ ns, names (mk ns) = ns) (hother : ∀ c, c.kind ≠ kind → names c = [])
    (hd : (clauses.map Clause.kind).Nodup) :
    ns = clauses.flatMap names ↔ mk ns ∈ clauses ∨ ns = [] ∧ ∀ ns, mk ns ∉ clauses := by
  by_cases h : ∃ ns, mk ns ∈ clauses
  · obtain ⟨ns', h'⟩ := h
    have hkind {ns} : (mk ns).kind = kind := (hmk _).mpr ⟨ns, rfl⟩
    rw [flatMap_of_mem hother hd h' hkind, hnames]
    constructor
    · rintro rfl
      exact .inl h'
    · rintro (hm | ⟨-, hnone⟩)
      · rw [← hnames ns, ← flatMap_of_mem hother hd hm hkind, flatMap_of_mem hother hd h' hkind,
          hnames]
      · exact absurd h' (hnone _)
  · have hnone : ∀ ns, mk ns ∉ clauses := fun ns hm => h ⟨ns, hm⟩
    have hnil : clauses.flatMap names = [] := by
      simp only [List.flatMap_eq_nil_iff]
      intro c hc
      refine hother c fun hk => ?_
      obtain ⟨ns, rfl⟩ := (hmk c).mp hk
      exact hnone ns hc
    simp [hnil, hnone]

theorem eq_keyNames_iff (hd : (clauses.map Clause.kind).Nodup) :
    ns = clauses.flatMap Clause.keyNames ↔
      .keys ns ∈ clauses ∨ ns = [] ∧ ∀ ns, .keys ns ∉ clauses := by
  refine eq_flatMap_iff .keys (fun c => ?_) (fun _ => rfl) (fun c => ?_) hd
  · cases c <;> simp [Clause.kind]
  · cases c <;> simp [Clause.kind, Clause.keyNames]

theorem eq_ignoredNames_iff (hd : (clauses.map Clause.kind).Nodup) :
    ns = clauses.flatMap Clause.ignoredNames ↔
      .ignored ns ∈ clauses ∨ ns = [] ∧ ∀ ns, .ignored ns ∉ clauses := by
  refine eq_flatMap_iff .ignored (fun c => ?_) (fun _ => rfl) (fun c => ?_) hd
  · cases c <;> simp [Clause.kind]
  · cases c <;> simp [Clause.kind, Clause.ignoredNames]

end Names

/-- A flag is set where its clause is there. -/
theorem eq_any_kind_iff {clauses : List Clause} {kind : ClauseKind} {c : Clause}
    (h : ∀ d : Clause, d.kind = kind ↔ d = c) {b : Bool} :
    b = clauses.any (·.kind = kind) ↔ (b = true ↔ c ∈ clauses) := by
  rw [Bool.eq_iff_iff]
  simp [h]

theorem eq_any_isAll_iff {items : List SelectItem} {b : Bool} :
    b = items.any SelectItem.isAll ↔ (b = true ↔ .all ∈ items) := by
  have h : ∀ i : SelectItem, i.isAll = true ↔ i = .all := by
    rintro (_ | _) <;> simp [SelectItem.isAll]
  rw [Bool.eq_iff_iff]
  simp [h]

/-- The statement that is put together from some parts is the one that holds
them. -/
theorem holds_iff_eq_ofParts {s : Statement} {mode : Keyword} {target source : Text}
    {items : List SelectItem} {clauses : List Clause} (hd : (clauses.map Clause.kind).Nodup) :
    Holds s mode target items source clauses ↔
      s = ofParts mode.text target items source clauses := by
  have hcreate : ∀ d : Clause, d.kind = .autoCreate ↔ d = .autoCreate := by
    rintro (_ | _ | _ | _ | _) <;> simp [Clause.kind]
  have hevolve : ∀ d : Clause, d.kind = .autoEvolve ↔ d = .autoEvolve := by
    rintro (_ | _ | _ | _ | _) <;> simp [Clause.kind]
  have hcap : ∀ d : Clause, d.kind = .capitalize ↔ d = .capitalize := by
    rintro (_ | _ | _ | _ | _) <;> simp [Clause.kind]
  obtain ⟨target', source', selectsAll, fields, keys, ignored, mode', create, evolve, cap⟩ := s
  simp only [ofParts, Statement.mk.injEq, eq_keyNames_iff hd, eq_ignoredNames_iff hd,
    eq_any_kind_iff hcreate, eq_any_kind_iff hevolve, eq_any_kind_iff hcap, eq_any_isAll_iff]
  constructor
  · rintro ⟨hm, ht, hs, ha, hf, hk, hi, hc, he, hp⟩
    exact ⟨ht, hs, ha, hf, hk, hi, hm, hc, he, hp⟩
  · rintro ⟨ht, hs, ha, hf, hk, hi, hm, hc, he, hp⟩
    exact ⟨hm, ht, hs, ha, hf, hk, hi, hc, he, hp⟩

/-! ## Whole statements -/

section Parts

variable {verb into table select from' stream : Token} {itemTokens : List Token}
  {mode : Keyword} {target source : Text} {items : List SelectItem}

/-- What stands before the clauses is read whatever they are. -/
theorem ofTokens_eq_map (hmode : mode = .insert ∨ mode = .upsert) (hverb : verb.Spells mode)
    (hinto : into.Spells .into) (htable : table.Names target) (hselect : select.Spells .select)
    (hitems : ItemList itemTokens items) (hn : items.count .all ≤ 1) (hfrom : from'.Spells .from)
    (hstream : stream.Names source) (rest : List Token) :
    ofTokens (verb :: into :: table :: select :: (itemTokens ++ from' :: stream :: rest)) =
      (readClauses [] rest).map (ofParts mode.text target items source) := by
  -- The select list ends at FROM, which is neither a comma nor AS.
  have hread (rest : List Token) :
      readItems false (itemTokens ++ from' :: rest) = .ok (items, from' :: rest) := by
    refine readItems_complete hitems hn ?_ ?_
    · simpa using hfrom.ne_comma
    · simp only [List.head?_cons, Option.mem_some_iff, forall_eq']
      exact fun has => by cases hfrom.unique has
  have hkeyword {choices : List Keyword} {k : Keyword} {t : Token} (hk : k ∈ choices)
      (ht : t.Spells k) (rest : List Token) : readKeyword choices (t :: rest) = .ok (k, rest) :=
    readKeyword_eq_ok_iff.mpr ⟨hk, t, ht, rfl⟩
  have hname {x : Expected} {t : Token} {name : Text} (ht : t.Names name) (rest : List Token) :
      readName x (t :: rest) = .ok (name, rest) :=
    readName_eq_ok_iff.mpr ⟨t, ht, rfl⟩
  have hchoice : mode ∈ [.insert, .upsert] := by simpa using hmode
  simp only [ofTokens, hkeyword hchoice hverb, hkeyword (List.mem_singleton_self _) hinto,
    hkeyword (List.mem_singleton_self _) hselect, hkeyword (List.mem_singleton_self _) hfrom,
    hname htable, hname hstream, hread, bind, Except.bind]
  cases readClauses [] rest <;> rfl

end Parts

theorem ofTokens_eq_ok_iff {ts : List Token} {s : Statement} :
    ofTokens ts = .ok s ↔ Derives ts s := by
  constructor
  · intro h
    simp only [ofTokens, Except.bind_eq_ok_iff] at h
    obtain ⟨⟨mode, ts₁⟩, h₁, ⟨_, ts₂⟩, h₂, ⟨target, ts₃⟩, h₃, ⟨_, ts₄⟩, h₄, ⟨items, ts₅⟩, h₅,
      ⟨_, ts₆⟩, h₆, ⟨source, ts₇⟩, h₇, clauses, h₈, he⟩ := h
    obtain ⟨hm, verb, hverb, rfl⟩ := readKeyword_eq_ok_iff.mp h₁
    obtain ⟨hi, into, hinto, rfl⟩ := readKeyword_eq_ok_iff.mp h₂
    obtain ⟨table, htable, rfl⟩ := readName_eq_ok_iff.mp h₃
    obtain ⟨hsel, select, hselect, rfl⟩ := readKeyword_eq_ok_iff.mp h₄
    obtain ⟨itemTokens, hitems, rfl, -, hn⟩ := readItems_sound h₅
    obtain ⟨hf, from', hfrom, rfl⟩ := readKeyword_eq_ok_iff.mp h₆
    obtain ⟨stream, hstream, rfl⟩ := readName_eq_ok_iff.mp h₇
    obtain ⟨hclauses, hd, -⟩ := readClauses_sound h₈
    cases he
    simp only [List.mem_cons, List.not_mem_nil, or_false] at hm hi hsel hf
    subst hi hsel hf
    exact .intro hm hverb hinto htable hselect hitems hn hfrom hstream hclauses hd
      ((holds_iff_eq_ofParts hd).mpr rfl)
  · intro h
    cases h with
    | intro hmode hverb hinto htable hselect hitems hn hfrom hstream hclauses hd hs =>
      rw [ofTokens_eq_map hmode hverb hinto htable hselect hitems hn hfrom hstream,
        readClauses_complete hclauses hd (by simp), (holds_iff_eq_ofParts hd).mp hs]
      rfl

theorem parse_of_scan {text : Text} {ts : List Token} (hsep : .char separator ∉ text)
    (hscan : Token.scan text = .ok ts) (hne : ts ≠ []) : parse text = ofTokens ts := by
  have hblank : ¬isBlankText text = true := by
    intro hblank
    rw [Token.scan_blanks hblank] at hscan
    cases hscan
    exact hne rfl
  rw [parse, if_neg hsep, if_neg hblank, hscan]

/-- A text is read through its tokens. A blank one has none, and is no
statement for that reason already. -/
theorem parse_eq_ok_iff {text : Text} {s : Statement} :
    parse text = .ok s ↔
      .char separator ∉ text ∧ ∃ ts, Token.scan text = .ok ts ∧ ofTokens ts = .ok s := by
  rw [parse]
  by_cases hsep : CodePoint.char separator ∈ text
  · simp [hsep]
  rw [if_neg hsep]
  by_cases hblank : isBlankText text = true
  · rw [if_pos hblank, Token.scan_blanks hblank]
    constructor
    · intro h
      cases h
    · rintro ⟨-, ts, hts, h⟩
      cases hts
      cases h
  · rw [if_neg hblank]
    cases Token.scan text with
    | error e => simp
    | ok ts => simp [hsep]

/-- **Reading accepts exactly the grammar.** A text is read as a statement where
it holds no separator and its tokens derive the statement. -/
theorem parse_eq_ok_iff_derives (text : Text) (s : Statement) :
    parse text = .ok s ↔
      .char ';' ∉ text ∧ ∃ ts, Token.scan text = .ok ts ∧ Derives ts s := by
  simp only [← ofTokens_eq_ok_iff]
  exact parse_eq_ok_iff

end Statement

end TableSink
