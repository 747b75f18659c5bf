/-
Where reading gives up.

The reader looks no further than the token that it is about to read. So what it
refuses because of a token it refuses whatever follows, and where it only runs
out of tokens, some tokens can follow that make a statement of them
(`Refuses`). A step of the reader has this property together with what it
answers (`Steady`), as long as no token follows that would lengthen what it
reads: a comma lengthens a list, and AS a field. Steps in a chain give a reader
that has it again (`Steady.chain`), and so the reader of statements has it.
-/
import TableSink.Proofs.Statement.Writing

namespace TableSink

open Text

namespace ParseError

/-- The tokens ended where the statement has to go on. -/
def AtEnd (e : ParseError) : Prop :=
  ∃ x, e = .ended x

/-- A token cannot stand where it stands. -/
def AtToken : ParseError → Prop
  | found _ _ | starTwice | duplicate _ => True
  | separator | blank | scan _ | ended _ => False

theorem AtToken.not_atEnd {e : ParseError} (h : e.AtToken) : ¬e.AtEnd := by
  rintro ⟨x, rfl⟩
  exact h

end ParseError

open Grammar

namespace Statement

variable {α β γ : Type}

/-! ## Readers that give up at the right place -/

/-- How a reader refuses tokens: for good, because of one of them, or at their
end only, and then there are tokens to go on with, after which it is done. -/
inductive Refuses (done : β → Prop) (read : List Token → Except ParseError β) (ts : List Token) :
    ParseError → Prop
  | forGood {e} : e.AtToken → (∀ more, read (ts ++ more) = .error e) → Refuses done read ts e
  | atEnd {x more b} : (∀ t ∈ more, Plain t) → read (ts ++ more) = .ok b → done b →
      Refuses done read ts (.ended x)

/-- A reader of all tokens that are left. Without tokens it can only miss some. -/
structure Prompt (read : List Token → Except ParseError β) : Prop where
  nil {e} : read [] = .error e → e.AtEnd
  refuses {ts e} : read ts = .error e → Refuses (fun _ => True) read ts e

/-- A step whose answer stays when tokens are added, unless it came to the end
and the first token that is added carries it on. -/
structure Steady (stop : Token → Prop) (step : Step α) : Prop where
  append {ts rest a} : step ts = .ok (a, rest) → ∀ more, (rest = [] → ∀ t ∈ more.head?, stop t) →
    step (ts ++ more) = .ok (a, rest ++ more)
  refuses {ts e} : step ts = .error e → Refuses (·.2 = []) step ts e

/-- A reader that goes on as another does refuses what the other refuses. -/
theorem Refuses.map {done : β → Prop} {done' : γ → Prop}
    {read : List Token → Except ParseError β} {read' : List Token → Except ParseError γ}
    {ts ts' : List Token} {e : ParseError} (h : Refuses done read ts e) (f : β → γ)
    (heq : ∀ more, read' (ts' ++ more) = (read (ts ++ more)).map f)
    (hdone : ∀ b, done b → done' (f b)) : Refuses done' read' ts' e := by
  cases h with
  | forGood htoken hread =>
    refine .forGood htoken fun more => ?_
    rw [heq, hread]
    rfl
  | atEnd hplain hread hb =>
    refine .atEnd hplain ?_ (hdone _ hb)
    rw [heq, hread]
    rfl

theorem Prompt.map {read : List Token → Except ParseError β} (h : Prompt read) (f : β → γ) :
    Prompt fun ts => (read ts).map f where
  nil he := h.nil (Except.map_eq_error_iff.mp he)
  refuses he :=
    (h.refuses (Except.map_eq_error_iff.mp he)).map f (fun _ => rfl) fun _ => id

/-- A steady step that needs a token, and a prompt reader of what it leaves, are
a prompt reader, if nothing that the second accepts carries the first on. -/
theorem Steady.chain {stop : Token → Prop} {step : Step α}
    {read : α × List Token → Except ParseError β} (hs : Steady stop step)
    (hnil : ∃ x, step [] = .error (.ended x)) (hr : ∀ a, Prompt fun rest => read (a, rest))
    (hstop : ∀ a ts b, read (a, ts) = .ok b → ∀ t ∈ ts.head?, stop t) :
    Prompt fun ts => step ts >>= read where
  nil he := by
    obtain ⟨x, hx⟩ := hnil
    rw [hx] at he
    cases he
    exact ⟨x, rfl⟩
  refuses {ts e} he := by
    rcases Except.bind_eq_error_iff.mp he with h | ⟨⟨a, rest⟩, h, hrest⟩
    · cases hs.refuses h with
      | forGood htoken hstep =>
        refine .forGood htoken fun more => ?_
        rw [hstep]
        rfl
      | @atEnd x more p hplain hstep hdone =>
        obtain ⟨a, rest⟩ := p
        obtain rfl : rest = [] := hdone
        cases hread : read (a, []) with
        | ok b => exact .atEnd hplain (by rw [hstep]; exact hread) trivial
        | error e' =>
          -- The step is complete, so what the second reader misses is added after it.
          cases (hr a).refuses hread with
          | forGood htoken _ => exact absurd ((hr a).nil hread) htoken.not_atEnd
          | @atEnd _ more' b hplain' hb _ =>
            rw [List.nil_append] at hb
            have hboth : ∀ t ∈ more ++ more', Plain t := fun t ht =>
              (List.mem_append.mp ht).elim (hplain t) (hplain' t)
            refine .atEnd hboth (b := b) ?_ trivial
            rw [← List.append_assoc, hs.append hstep more' fun _ => hstop a _ b hb]
            exact hb
    · cases (hr a).refuses hrest with
      | forGood htoken hread =>
        -- The second reader refuses a token, so the step did not come to the end.
        have hne : rest ≠ [] := by
          rintro rfl
          exact htoken.not_atEnd ((hr a).nil hrest)
        refine .forGood htoken fun more => ?_
        rw [hs.append h more fun hnil => absurd hnil hne]
        exact hread more
      | @atEnd _ more b hplain hb _ =>
        refine .atEnd hplain (b := b) ?_ trivial
        rw [hs.append h more ?_]
        · exact hb
        · rintro rfl
          exact hstop a _ b hb

/-! ## Single tokens -/

theorem steady_readKeyword {choices : List Keyword} (h : choices ≠ []) :
    Steady (fun _ => True) (readKeyword choices) where
  append hr _ _ := by
    obtain ⟨hk, t, ht, rfl⟩ := readKeyword_eq_ok_iff.mp hr
    exact readKeyword_eq_ok_iff.mpr ⟨hk, t, ht, rfl⟩
  refuses {ts e} hr := by
    cases ts with
    | nil =>
      obtain ⟨k, hk⟩ := List.exists_mem_of_ne_nil _ h
      have hplain : ∀ t ∈ [keyword k], Plain t := by simpa using plain_keyword k
      cases hr
      exact .atEnd hplain (readKeyword_eq_ok_iff.mpr ⟨hk, _, spells_keyword k, rfl⟩) rfl
    | cons t ts =>
      simp only [readKeyword] at hr
      split at hr
      next k hk =>
        split at hr
        · cases hr
        next hmem =>
          cases hr
          refine .forGood trivial fun more => ?_
          simp only [List.cons_append, readKeyword, hk, if_neg hmem]
      next hk =>
        cases hr
        refine .forGood trivial fun more => ?_
        simp only [List.cons_append, readKeyword, hk]

/-- A name to go on with. -/
def someName : Text := "x"

theorem plain_someName : ∀ t ∈ [Token.quoted someName], Plain t := by
  have h : Quotable someName := ⟨by decide, by decide, by decide⟩
  simpa using plain_quoted h

theorem steady_readName (x : Expected) : Steady (fun _ => True) (readName x) where
  append hr _ _ := by
    obtain ⟨t, ht, rfl⟩ := readName_eq_ok_iff.mp hr
    exact readName_eq_ok_iff.mpr ⟨t, ht, rfl⟩
  refuses {ts e} hr := by
    cases ts with
    | nil =>
      cases hr
      exact .atEnd plain_someName rfl rfl
    | cons t ts =>
      simp only [readName] at hr
      split at hr
      · cases hr
      next hn =>
        cases hr
        refine .forGood trivial fun more => ?_
        simp only [List.cons_append, readName, hn]

/-! ## Lists of names -/

theorem readNames_append {x : Expected} {ts rest : List Token} {names : List Text}
    (h : readNames x ts = .ok (names, rest)) (more : List Token)
    (hmore : rest = [] → ∀ t ∈ more.head?, t ≠ .comma) :
    readNames x (ts ++ more) = .ok (names, rest ++ more) := by
  obtain ⟨used, hu, rfl, hc⟩ := readNames_sound h
  rw [List.append_assoc]
  refine readNames_complete hu ?_
  cases rest with
  | nil => exact fun he => hmore rfl _ he rfl
  | cons t rest => exact hc

theorem readNames_refuses {x : Expected} {ts : List Token} {e : ParseError}
    (h : readNames x ts = .error e) : Refuses (·.2 = []) (readNames x) ts e := by
  fun_induction readNames x ts with
  | case1 =>
    cases h
    exact .atEnd plain_someName rfl rfl
  | case2 t ts name hn ih =>
    refine (ih (Except.map_eq_error_iff.mp h)).map (fun p => (name :: p.1, p.2)) (fun more => ?_)
      fun _ => id
    simp only [List.cons_append, readNames, hn]
  | case3 t ts hn =>
    cases h
    refine .forGood trivial fun more => ?_
    simp only [List.cons_append, readNames, hn]
  | case4 => cases h
  | case5 t ts hc hn =>
    cases h
    refine .forGood trivial fun more => ?_
    rw [List.cons_append, readNames.eq_def]
    split <;> simp_all

theorem steady_readNames (x : Expected) : Steady (· ≠ .comma) (readNames x) where
  append := readNames_append
  refuses := readNames_refuses

/-! ## Select lists -/

theorem readField_of_not_name {t : Token} (h : t.name? = none) (ts : List Token) :
    readField (t :: ts) = .error (.found .field t) := by
  simp only [readField, h]

theorem readField_renamed {t as : Token} {name : Text} (h : t.name? = some name)
    (has : as.Spells .as) (ts : List Token) :
    readField (t :: as :: ts) = (readName .column ts).map fun p => (.field name p.1, p.2) := by
  simp only [readField, h, isAs_iff.mpr has, if_true]

theorem readField_plain {t : Token} {name : Text} (h : t.name? = some name) {ts : List Token}
    (has : ∀ a ∈ ts.head?, ¬a.Spells .as) :
    readField (t :: ts) = .ok (.field name name, ts) := by
  cases ts with
  | nil => simp only [readField, h]
  | cons a ts =>
    have ha : ¬isAs a = true := fun ha => has a rfl (isAs_iff.mp ha)
    simp only [readField, h, if_neg ha]

theorem startsWithAs_or (ts : List Token) :
    (∃ as ts', ts = as :: ts' ∧ as.Spells .as) ∨ ∀ a ∈ ts.head?, ¬a.Spells .as := by
  cases ts with
  | nil => exact .inr (by simp)
  | cons a ts =>
    by_cases ha : a.Spells .as
    · exact .inl ⟨a, ts, rfl, ha⟩
    · exact .inr (by simpa using ha)

theorem steady_readField : Steady (fun t => ¬t.Spells .as) readField where
  append {ts rest item} h more hmore := by
    cases ts with
    | nil => cases h
    | cons t ts =>
      rw [List.cons_append]
      cases hn : t.name? with
      | none =>
        rw [readField_of_not_name hn] at h
        cases h
      | some name =>
        rcases startsWithAs_or ts with ⟨as, ts, rfl, has⟩ | has
        · rw [readField_renamed hn has] at h
          obtain ⟨⟨column, rest⟩, hr, he⟩ := Except.map_eq_ok_iff.mp h
          cases he
          rw [List.cons_append, readField_renamed hn has,
            (steady_readName .column).append hr more fun _ _ _ => trivial]
          rfl
        · rw [readField_plain hn has] at h
          cases h
          refine readField_plain hn ?_
          cases rest with
          | nil => exact hmore rfl
          | cons a rest => exact has
  refuses {ts e} h := by
    cases ts with
    | nil =>
      cases h
      exact .atEnd plain_someName rfl rfl
    | cons t ts =>
      cases hn : t.name? with
      | none =>
        rw [readField_of_not_name hn] at h
        cases h
        exact .forGood trivial fun more => readField_of_not_name hn _
      | some name =>
        rcases startsWithAs_or ts with ⟨as, ts, rfl, has⟩ | has
        · rw [readField_renamed hn has] at h
          have hcolumn := (steady_readName .column).refuses (Except.map_eq_error_iff.mp h)
          exact hcolumn.map _ (fun more => readField_renamed hn has _) fun _ => id
        · rw [readField_plain hn has] at h
          cases h

theorem steady_readItem (starred : Bool) : Steady (fun t => ¬t.Spells .as) (readItem starred) where
  append {ts rest item} h more hmore := by
    cases ts with
    | nil => cases h
    | cons t ts =>
      by_cases ht : t = .star
      · subst ht
        cases starred with
        | true => cases h
        | false =>
          cases h
          rfl
      · rw [readItem_of_ne_star ht] at h
        rw [List.cons_append, readItem_of_ne_star ht]
        exact steady_readField.append h more hmore
  refuses {ts e} h := by
    cases ts with
    | nil =>
      cases h
      exact .atEnd plain_someName rfl rfl
    | cons t ts =>
      by_cases ht : t = .star
      · subst ht
        cases starred with
        | true =>
          cases h
          exact .forGood trivial fun more => rfl
        | false => cases h
      · rw [readItem_of_ne_star ht] at h
        cases steady_readField.refuses h with
        | forGood htoken hr =>
          exact .forGood htoken fun more => (readItem_of_ne_star ht _ _).trans (hr more)
        | atEnd hplain hr hdone =>
          exact .atEnd hplain ((readItem_of_ne_star ht _ _).trans hr) hdone

theorem readItem_append_comma {starred : Bool} {ts rest : List Token} {item : SelectItem}
    (h : readItem starred ts = .ok (item, .comma :: rest)) (more : List Token) :
    readItem starred (ts ++ more) = .ok (item, .comma :: (rest ++ more)) :=
  (steady_readItem starred).append h more nofun

theorem readItems_of_error {starred : Bool} {ts : List Token} {e : ParseError}
    (h : readItem starred ts = .error e) : readItems starred ts = .error e := by
  rw [readItems]
  split
  · next he => rw [h] at he; cases he; rfl
  · next he => rw [h] at he; cases he
  · next he => rw [h] at he; cases he

/-- A comma lengthens a list of items, and AS the last of them. -/
def EndsItems (t : Token) : Prop :=
  t ≠ .comma ∧ ¬t.Spells .as

theorem readItems_append {starred : Bool} {ts rest : List Token} {items : List SelectItem}
    (h : readItems starred ts = .ok (items, rest)) (more : List Token)
    (hmore : rest = [] → ∀ t ∈ more.head?, EndsItems t) :
    readItems starred (ts ++ more) = .ok (items, rest ++ more) := by
  fun_induction readItems starred ts generalizing items rest with
  | case1 => cases h
  | case2 starred ts item rest' hi ih =>
    obtain ⟨⟨items, rest⟩, hr, he⟩ := Except.map_eq_ok_iff.mp h
    cases he
    rw [readItems_of_comma (readItem_append_comma hi more), ih hr hmore]
    rfl
  | case3 starred ts item rest' hc hi =>
    cases h
    have hitem := (steady_readItem starred).append hi more fun he t ht => (hmore he t ht).2
    refine readItems_of_stop hitem ?_
    cases rest' with
    | nil => exact fun he => (hmore rfl _ he).1 rfl
    | cons t rest =>
      intro he
      cases he
      exact hc _ rfl

theorem readItems_refuses {starred : Bool} {ts : List Token} {e : ParseError}
    (h : readItems starred ts = .error e) : Refuses (·.2 = []) (readItems starred) ts e := by
  fun_induction readItems starred ts with
  | case1 starred ts e' hi =>
    cases h
    cases (steady_readItem starred).refuses hi with
    | forGood htoken hr => exact .forGood htoken fun more => readItems_of_error (hr more)
    | @atEnd _ more p hplain hr hdone =>
      obtain ⟨item, rest⟩ := p
      obtain rfl : rest = [] := hdone
      exact .atEnd hplain (readItems_of_stop hr (by simp)) rfl
  | case2 starred ts item rest hi ih =>
    refine (ih (Except.map_eq_error_iff.mp h)).map (fun p => (item :: p.1, p.2)) (fun more => ?_)
      fun _ => id
    exact readItems_of_comma (readItem_append_comma hi more)
  | case3 => cases h

theorem steady_readItems (starred : Bool) : Steady EndsItems (readItems starred) where
  append := readItems_append
  refuses := readItems_refuses

/-! ## Clauses -/

theorem steady_readClauseBody (kind : ClauseKind) : Steady (· ≠ .comma) (readClauseBody kind) where
  append {ts rest clause} h more hmore := by
    cases kind with
    | ignored | keys =>
      obtain ⟨⟨names, rest⟩, hr, he⟩ := Except.map_eq_ok_iff.mp h
      cases he
      rw [readClauseBody, (steady_readNames _).append hr more hmore]
      rfl
    | autoCreate | autoEvolve | capitalize =>
      cases h
      rfl
  refuses {ts e} h := by
    cases kind with
    | ignored | keys =>
      have hnames := (steady_readNames _).refuses (Except.map_eq_error_iff.mp h)
      exact hnames.map _ (fun _ => rfl) fun _ => id
    | autoCreate | autoEvolve | capitalize => cases h

theorem readClauses_refuses {seen : List ClauseKind} {ts : List Token} {e : ParseError}
    (h : readClauses seen ts = .error e) : Refuses (fun _ => True) (readClauses seen) ts e := by
  fun_induction readClauses seen ts with
  | case1 => cases h
  | case2 seen t ts hopen =>
    cases h
    exact .forGood trivial fun more => readClauses_of_not_opening hopen
  | case3 seen t ts k kind hopen hseen =>
    cases h
    exact .forGood trivial fun more => readClauses_of_seen hopen hseen
  | case4 seen t ts k kind hopen hseen e' hb =>
    cases h
    cases (steady_readClauseBody kind).refuses hb with
    | forGood htoken hr =>
      refine .forGood htoken fun more => ?_
      rw [List.cons_append, readClauses_of_opening hopen hseen, hr]
      rfl
    | @atEnd _ more p hplain hr hdone =>
      obtain ⟨clause, rest⟩ := p
      obtain rfl : rest = [] := hdone
      refine .atEnd hplain (b := [clause]) ?_ trivial
      rw [List.cons_append, readClauses_of_opening hopen hseen, hr]
      simp only [bind, Except.bind, readClauses]
      rfl
  | case5 seen t ts k kind hopen hseen clause rest hb ih =>
    have hrest := Except.map_eq_error_iff.mp h
    -- Without tokens there are no clauses, so the clause before did not come to the end.
    have hne : rest ≠ [] := by
      rintro rfl
      rw [readClauses] at hrest
      cases hrest
    refine (ih hrest).map (clause :: ·) (fun more => ?_) fun _ => id
    rw [List.cons_append, readClauses_of_opening hopen hseen,
      (steady_readClauseBody kind).append hb more fun hnil => absurd hnil hne]
    rfl

theorem prompt_readClauses : Prompt (readClauses []) where
  nil h := by
    rw [readClauses] at h
    cases h
  refuses := readClauses_refuses

/-! ## Whole statements -/

theorem prompt_ofTokens : Prompt ofTokens := by
  have hkeyword (k : Keyword) : Steady (fun _ => True) (readKeyword [k]) :=
    steady_readKeyword (List.cons_ne_nil _ _)
  have hmode : Steady (fun _ => True) (readKeyword [.insert, .upsert]) :=
    steady_readKeyword (List.cons_ne_nil _ _)
  have hitemsNil : ∃ x, readItems false [] = .error (.ended x) := ⟨.field, readItems_of_error rfl⟩
  unfold ofTokens
  refine hmode.chain ⟨_, rfl⟩ (fun mode => ?_) fun _ _ _ _ _ _ => trivial
  refine (hkeyword .into).chain ⟨_, rfl⟩ (fun _ => ?_) fun _ _ _ _ _ _ => trivial
  refine (steady_readName .table).chain ⟨_, rfl⟩ (fun target => ?_) fun _ _ _ _ _ _ => trivial
  refine (hkeyword .select).chain ⟨_, rfl⟩ (fun _ => ?_) fun _ _ _ _ _ _ => trivial
  refine (steady_readItems false).chain hitemsNil (fun items => ?_) fun items ts s h => ?_
  · refine (hkeyword .from).chain ⟨_, rfl⟩ (fun _ => ?_) fun _ _ _ _ _ _ => trivial
    refine (steady_readName .source).chain ⟨_, rfl⟩ (fun source => ?_) fun _ _ _ _ _ _ => trivial
    exact prompt_readClauses.map (ofParts mode.text target items source)
  · -- FROM follows the select list, and carries no list on.
    obtain ⟨⟨k, rest⟩, hfrom, -⟩ := Except.bind_eq_ok_iff.mp h
    obtain ⟨hk, t, ht, rfl⟩ := readKeyword_eq_ok_iff.mp hfrom
    obtain rfl := List.mem_singleton.mp hk
    rintro _ ⟨⟩
    exact ⟨ht.ne_comma, fun has => by cases ht.unique has⟩

/-! ## Texts -/

theorem not_isPrefix_append {p a : Text} (h : ¬p <+: a) (h' : ¬a <+: p) (b : Text) :
    ¬p <+: a ++ b := by
  intro hp
  rcases List.prefix_or_prefix_of_prefix hp (List.prefix_append a b) with hpa | hap
  · exact h hpa
  · exact h' hap

/-- The wording tells whether the tokens ended too early. -/
theorem isPrefix_reason_iff {e : ParseError} :
    ofString "Unexpected end of statement" <+: e.reason ↔ e.AtEnd := by
  constructor
  · intro h
    cases e with
    | ended x => exact ⟨x, rfl⟩
    | separator | blank | starTwice => exact absurd h (by decide)
    | scan cause =>
      cases cause with
      | emptyName pos => exact absurd h (not_isPrefix_append (by decide) (by decide) _)
      | unexpected c pos =>
        simp only [ParseError.reason, Token.ScanError.message, List.append_assoc] at h
        exact absurd h (not_isPrefix_append (by decide) (by decide) _)
    | found x t =>
      simp only [ParseError.reason, List.append_assoc] at h
      exact absurd h (not_isPrefix_append (by decide) (by decide) _)
    | duplicate k =>
      simp only [ParseError.reason, List.append_assoc] at h
      exact absurd h (not_isPrefix_append (by decide) (by decide) _)
  · rintro ⟨x, rfl⟩
    have hwords : ofString "Unexpected end of statement" <+:
        ofString "Unexpected end of statement, expected " := by decide
    exact hwords.trans (List.prefix_append _ _)

/-- **Reading gives up at the right place.** Where a text is refused because of
one of its tokens, every text that starts with its tokens is refused for the
same reason; and where its tokens only end too early, some text that starts with
them is a statement. -/
theorem parse_refuses_in_place {text : Text} {ts : List Token} {e : ParseError}
    (hsep : .char ';' ∉ text) (hscan : Token.scan text = .ok ts) (hne : ts ≠ [])
    (h : parse text = .error e) :
    (¬ofString "Unexpected end of statement" <+: e.reason →
      ∀ text' ts', .char ';' ∉ text' → Token.scan text' = .ok ts' → ts <+: ts' →
        parse text' = .error e) ∧
    (ofString "Unexpected end of statement" <+: e.reason →
      ∃ text' ts' s, .char ';' ∉ text' ∧ Token.scan text' = .ok ts' ∧ ts <+: ts' ∧
        parse text' = .ok s) := by
  rw [parse_of_scan hsep hscan hne] at h
  rw [isPrefix_reason_iff]
  cases prompt_ofTokens.refuses h with
  | forGood htoken hread =>
    refine ⟨fun _ text' ts' hsep' hscan' hprefix => ?_, fun hend => absurd hend htoken.not_atEnd⟩
    obtain ⟨more, rfl⟩ := hprefix
    rw [parse_of_scan hsep' hscan' (List.append_ne_nil_of_left_ne_nil hne more)]
    exact hread more
  | @atEnd x more s hplain hread _ =>
    refine ⟨fun hend => absurd ⟨x, rfl⟩ hend, fun _ => ?_⟩
    have hboth : ∀ t ∈ ts ++ more, Plain t := fun t ht =>
      (List.mem_append.mp ht).elim (plain_of_scan hsep hscan t) (hplain t)
    have hsep' : .char ';' ∉ Token.write (ts ++ more) :=
      Token.not_mem_write (by decide) fun t ht => (hboth t ht).2
    have hscan' : Token.scan (Token.write (ts ++ more)) = .ok (ts ++ more) :=
      Token.scan_write fun t ht => (hboth t ht).1
    refine ⟨_, _, s, hsep', hscan', List.prefix_append ts more, ?_⟩
    rw [parse_of_scan hsep' hscan' (List.append_ne_nil_of_left_ne_nil hne more)]
    exact hread

/-- A second star is refused for good; after AS a name may still come. -/
theorem parse_refuses_star_and_as :
    (parse "INSERT INTO t SELECT *, *" = .error .starTwice ∧
      ∀ text' ts', .char ';' ∉ text' → Token.scan text' = .ok ts' →
        [.word "INSERT", .word "INTO", .word "t", .word "SELECT", .star, .comma, .star] <+: ts' →
        parse text' = .error .starTwice) ∧
    (parse "UPSERT INTO t SELECT a AS" = .error (.ended .column) ∧
      ∃ text' ts' s, .char ';' ∉ text' ∧ Token.scan text' = .ok ts' ∧
        [.word "UPSERT", .word "INTO", .word "t", .word "SELECT", .word "a", .word "AS"] <+: ts' ∧
        parse text' = .ok s) := by
  have hstar : parse "INSERT INTO t SELECT *, *" = .error .starTwice := by
    with_unfolding_all rfl
  have has : parse "UPSERT INTO t SELECT a AS" = .error (.ended .column) := by
    with_unfolding_all rfl
  refine ⟨⟨hstar, ?_⟩, has, ?_⟩
  · exact (parse_refuses_in_place (by decide) (by with_unfolding_all rfl) (by decide) hstar).1
      (by decide)
  · exact (parse_refuses_in_place (by decide) (by with_unfolding_all rfl) (by decide) has).2
      (by decide)

end Statement

end TableSink
