/-
Statements that differ in the spelling of their tokens only.

A keyword may be written in capital or small letters, a name that is no keyword bare
or in backquotes, and blanks are no part of a token. Tokens that differ in nothing
else are alike. The grammar asks of a token which keyword it spells and which name it
is, and whether it is the star or a comma; alike tokens give the same answers. So
what is spelled by some tokens is spelled by tokens like them, and texts of alike
tokens are read as the same statement, or none of them is (`parse_alike`).
-/
import TableSink.Proofs.Statement.Writing
import Mathlib.Data.List.Forall2

namespace TableSink

open Text Grammar

/-! ## Alike tokens -/

/-- Two tokens are alike: the same keyword, the same mark, or the same name, each as
it may be spelled. -/
inductive Token.Alike : Token → Token → Prop
  | keyword {t u k} : t.Spells k → u.Spells k → Alike t u
  | star : Alike .star .star
  | comma : Alike .comma .comma
  | name {t u name} : t.Names name → u.Names name → Alike t u

instance (t u : Token) : Decidable (t.Alike u) :=
  decidable_of_iff
    (t.keyword?.isSome ∧ t.keyword? = u.keyword? ∨ t.name?.isSome ∧ t.name? = u.name? ∨
      t = .star ∧ u = .star ∨ t = .comma ∧ u = .comma) <| by
    constructor
    · rintro (⟨hsome, heq⟩ | ⟨hsome, heq⟩ | ⟨rfl, rfl⟩ | ⟨rfl, rfl⟩)
      · obtain ⟨k, hk⟩ := Option.isSome_iff_exists.mp hsome
        exact .keyword (Token.keyword?_eq_some_iff.mp hk)
          (Token.keyword?_eq_some_iff.mp (heq.symm.trans hk))
      · obtain ⟨name, hn⟩ := Option.isSome_iff_exists.mp hsome
        exact .name (Token.name?_eq_some_iff.mp hn) (Token.name?_eq_some_iff.mp (heq.symm.trans hn))
      · exact .star
      · exact .comma
    · intro h
      cases h with
      | keyword ht hu =>
        rw [← Token.keyword?_eq_some_iff] at ht hu
        simp [ht, hu]
      | star => simp
      | comma => simp
      | name ht hu =>
        rw [← Token.name?_eq_some_iff] at ht hu
        simp [ht, hu]

namespace Token.Alike

theorem symm {t u : Token} (h : t.Alike u) : u.Alike t := by
  cases h with
  | keyword ht hu => exact .keyword hu ht
  | star => exact .star
  | comma => exact .comma
  | name ht hu => exact .name hu ht

theorem spells {t u : Token} (h : t.Alike u) {k : Keyword} (ht : t.Spells k) : u.Spells k := by
  cases h with
  | keyword ht' hu =>
    rw [ht.unique ht']
    exact hu
  | star | comma => exact ht
  | name ht' => exact absurd ht (ht'.not_spells k)

theorem names {t u : Token} (h : t.Alike u) {name : Text} (ht : t.Names name) : u.Names name := by
  cases h with
  | keyword ht' => exact absurd ht' (ht.not_spells _)
  | star | comma => exact ht
  | name ht' hu =>
    obtain rfl := ht.unique ht'
    exact hu

theorem eq_star {u : Token} (h : Token.star.Alike u) : u = .star := by
  cases h with
  | star => rfl
  | keyword ht => exact absurd ht not_spells_star
  | name ht => exact absurd rfl ht.ne_star

theorem eq_comma {u : Token} (h : Token.comma.Alike u) : u = .comma := by
  cases h with
  | comma => rfl
  | keyword ht => exact absurd rfl ht.ne_comma
  | name ht => exact absurd rfl ht.ne_comma

end Token.Alike

/-- Tokens of which each is like the one at its place. -/
abbrev AllAlike : List Token → List Token → Prop :=
  List.Forall₂ Token.Alike

theorem AllAlike.symm {ts us : List Token} (h : AllAlike ts us) : AllAlike us ts :=
  List.Forall₂.flip (h.imp fun _ _ ha => ha.symm)

/-- What is like two parts in a row is made of two such parts. -/
theorem AllAlike.of_append {ts ts' us : List Token} (h : AllAlike (ts ++ ts') us) :
    ∃ vs vs', us = vs ++ vs' ∧ AllAlike ts vs ∧ AllAlike ts' vs' := by
  have hfirst : AllAlike (us.take ts.length) ts := List.forall₂_take_append us ts ts' h.symm
  have hsecond : AllAlike (us.drop ts.length) ts' := List.forall₂_drop_append us ts ts' h.symm
  exact ⟨_, _, (List.take_append_drop ts.length us).symm, hfirst.symm, hsecond.symm⟩

/-! ## The grammar -/

namespace Grammar

theorem NameList.alike {ts us : List Token} {names : List Text} (h : NameList ts names)
    (ha : AllAlike ts us) : NameList us names := by
  induction h generalizing us with
  | one hn =>
    obtain _ | ⟨hu, hend⟩ := ha
    obtain _ | _ := hend
    exact .one (hu.names hn)
  | cons hn _ ih =>
    obtain _ | ⟨hu, ha⟩ := ha
    obtain _ | ⟨hcomma, ha⟩ := ha
    obtain rfl := hcomma.eq_comma
    exact .cons (hu.names hn) (ih ha)

theorem Item.alike {ts us : List Token} {item : SelectItem} (h : Item ts item)
    (ha : AllAlike ts us) : Item us item := by
  cases h with
  | all =>
    obtain _ | ⟨hu, hend⟩ := ha
    obtain _ | _ := hend
    obtain rfl := hu.eq_star
    exact .all
  | field hn =>
    obtain _ | ⟨hu, hend⟩ := ha
    obtain _ | _ := hend
    exact .field (hu.names hn)
  | renamed hn has hc =>
    obtain _ | ⟨hu, ha⟩ := ha
    obtain _ | ⟨hv, ha⟩ := ha
    obtain _ | ⟨hw, hend⟩ := ha
    obtain _ | _ := hend
    exact .renamed (hu.names hn) (hv.spells has) (hw.names hc)

theorem ItemList.alike {ts us : List Token} {items : List SelectItem} (h : ItemList ts items)
    (ha : AllAlike ts us) : ItemList us items := by
  induction h generalizing us with
  | one hi => exact .one (hi.alike ha)
  | cons hi _ ih =>
    obtain ⟨vs, vs', rfl, hfirst, hrest⟩ := ha.of_append
    obtain _ | ⟨hcomma, hrest⟩ := hrest
    obtain rfl := hcomma.eq_comma
    exact .cons (hi.alike hfirst) (ih hrest)

theorem ClauseOf.alike {ts us : List Token} {c : Clause} (h : ClauseOf ts c)
    (ha : AllAlike ts us) : ClauseOf us c := by
  obtain _ | ⟨hu, ha⟩ := ha
  · cases h
  cases h with
  | ignored ht hn => exact .ignored (hu.spells ht) (hn.alike ha)
  | keys ht hn => exact .keys (hu.spells ht) (hn.alike ha)
  | autoCreate ht =>
    obtain _ | _ := ha
    exact .autoCreate (hu.spells ht)
  | autoEvolve ht =>
    obtain _ | _ := ha
    exact .autoEvolve (hu.spells ht)
  | capitalize ht =>
    obtain _ | _ := ha
    exact .capitalize (hu.spells ht)
  | capitalizeNames ht =>
    obtain _ | _ := ha
    exact .capitalizeNames (hu.spells ht)

theorem ClauseList.alike {ts us : List Token} {clauses : List Clause} (h : ClauseList ts clauses)
    (ha : AllAlike ts us) : ClauseList us clauses := by
  induction h generalizing us with
  | nil =>
    obtain _ | _ := ha
    exact .nil
  | cons hc _ ih =>
    obtain ⟨vs, vs', rfl, hfirst, hrest⟩ := ha.of_append
    exact .cons (hc.alike hfirst) (ih hrest)

theorem Derives.alike {ts us : List Token} {s : Statement} (h : Derives ts s)
    (ha : AllAlike ts us) : Derives us s := by
  cases h with
  | intro hmode hverb hinto htable hselect hitems hn hfrom hstream hclauses hd hs =>
    obtain _ | ⟨hverb', ha⟩ := ha
    obtain _ | ⟨hinto', ha⟩ := ha
    obtain _ | ⟨htable', ha⟩ := ha
    obtain _ | ⟨hselect', ha⟩ := ha
    obtain ⟨itemTokens, us, rfl, hitems', hrest⟩ := AllAlike.of_append ha
    obtain _ | ⟨hfrom', hrest⟩ := hrest
    obtain _ | ⟨hstream', hrest⟩ := hrest
    exact .intro hmode (hverb'.spells hverb) (hinto'.spells hinto) (htable'.names htable)
      (hselect'.spells hselect) (hitems.alike hitems') hn (hfrom'.spells hfrom)
      (hstream'.names hstream) (hclauses.alike hrest) hd hs

end Grammar

/-! ## Texts -/

namespace Statement

theorem parse_of_alike {text text' : Text} {ts ts' : List Token} (hsep' : .char ';' ∉ text')
    (hscan : Token.scan text = .ok ts) (hscan' : Token.scan text' = .ok ts')
    (ha : AllAlike ts ts') {s : Statement} (h : parse text = .ok s) : parse text' = .ok s := by
  obtain ⟨-, us, hus, hread⟩ := parse_eq_ok_iff.mp h
  cases hscan.symm.trans hus
  have hderives : Derives ts' s := (ofTokens_eq_ok_iff.mp hread).alike ha
  exact parse_eq_ok_iff.mpr ⟨hsep', ts', hscan', ofTokens_eq_ok_iff.mpr hderives⟩

/-- **The spelling of tokens does not count.** Of two texts of alike tokens one is a
statement where the other is, and the same one. Its write mode is told in capital
letters, and its names are those of the tokens, letter by letter. -/
theorem parse_alike {text text' : Text} {ts ts' : List Token} (hsep : .char ';' ∉ text)
    (hsep' : .char ';' ∉ text') (hscan : Token.scan text = .ok ts)
    (hscan' : Token.scan text' = .ok ts') (ha : AllAlike ts ts') (s : Statement) :
    (parse text = .ok s ↔ parse text' = .ok s) ∧
    (parse text = .ok s → (s.mode = ofString "INSERT" ∨ s.mode = ofString "UPSERT") ∧
      ∀ name ∈ s.names, (∃ t ∈ ts, t.Names name) ∧ ∃ t ∈ ts', t.Names name) := by
  have hright : parse text = .ok s → parse text' = .ok s := parse_of_alike hsep' hscan hscan' ha
  have hleft : parse text' = .ok s → parse text = .ok s :=
    parse_of_alike hsep hscan' hscan ha.symm
  have hnames {text : Text} {ts : List Token} (hscan : Token.scan text = .ok ts)
      (h : parse text = .ok s) : ∀ name ∈ s.names, ∃ t ∈ ts, t.Names name := by
    obtain ⟨-, us, hus, hread⟩ := parse_eq_ok_iff.mp h
    cases hscan.symm.trans hus
    exact names_forall (ofTokens_eq_ok_iff.mp hread) fun t ht name hn => ⟨t, ht, hn⟩
  refine ⟨⟨hright, hleft⟩, fun h => ⟨?_, fun name hname => ⟨?_, ?_⟩⟩⟩
  · exact (expressible_of_parse h).mode
  · exact hnames hscan h name hname
  · exact hnames hscan' (hright h) name hname

/-- A statement in which a column is named as a keyword. -/
def respelled : Statement where
  target := "t"
  source := "s"
  selectsAll := true
  fields := [("Id", "pk")]
  keys := ["Id"]
  mode := "UPSERT"

def capitalText : Text :=
  "UPSERT INTO \x60t\x60 SELECT *, Id AS \x60pk\x60 FROM s PK Id"

def capitalTokens : List Token :=
  [.word "UPSERT", .word "INTO", .quoted "t", .word "SELECT", .star, .comma, .word "Id",
    .word "AS", .quoted "pk", .word "FROM", .word "s", .word "PK", .word "Id"]

def smallText : Text :=
  "upsert\nInto t select*,\x60Id\x60As\x60pk\x60from \x60s\x60pk \x60Id\x60"

def smallTokens : List Token :=
  [.word "upsert", .word "Into", .word "t", .word "select", .star, .comma, .quoted "Id",
    .word "As", .quoted "pk", .word "from", .quoted "s", .word "pk", .quoted "Id"]

/-- Keywords in small letters, names in backquotes and other blanks make no difference;
a name that is a keyword stays in its backquotes. -/
theorem parse_alike_respelled :
    parse capitalText = .ok respelled ∧ parse smallText = .ok respelled ∧
    (respelled.mode = ofString "INSERT" ∨ respelled.mode = ofString "UPSERT") ∧
    ∀ name ∈ respelled.names,
      (∃ t ∈ capitalTokens, t.Names name) ∧ ∃ t ∈ smallTokens, t.Names name := by
  have hparse : parse capitalText = .ok respelled := by with_unfolding_all rfl
  have hscan : Token.scan capitalText = .ok capitalTokens := by with_unfolding_all rfl
  have hscan' : Token.scan smallText = .ok smallTokens := by with_unfolding_all rfl
  have halike : AllAlike capitalTokens smallTokens := by decide
  obtain ⟨hiff, hsays⟩ :=
    parse_alike (by decide) (by decide) hscan hscan' halike respelled
  obtain ⟨hmode, hnames⟩ := hsays hparse
  exact ⟨hparse, hiff.mp hparse, hmode, hnames⟩

end Statement

end TableSink
