/-
The grammar of export statements, over tokens.

    statement  =  (INSERT | UPSERT) INTO name SELECT items FROM name clause …
    items      =  item, …                    the star at most once
    item       =  * | name | name AS name
    clause     =  IGNORE names | PK names | AUTOCREATE | AUTOEVOLVE
                    | CAPITALIZE | CAPITALIZENAMES       no kind of clause twice
    names      =  name, …

A derivation says which tokens stand for which part; nothing here reads tokens
from left to right or decides where a list ends.
-/
import TableSink.Statement.Basic
import TableSink.Statement.Token

namespace TableSink

open Text

/-! ## Words and names -/

namespace Token

/-- The token is the keyword: a bare word that spells it, whichever letters are
capitals. -/
def Spells (t : Token) (k : Keyword) : Prop :=
  ∃ w : Text, t = .word w ∧ w.map (·.map Char.toUpper) = k.text

/-- The token is a name: any text in backquotes, or a bare word that is not a
keyword. -/
def Names (t : Token) (name : Text) : Prop :=
  t = .quoted name ∨ t = .word name ∧ ∀ k, ¬ t.Spells k

/-- No name is a keyword. -/
theorem Names.not_spells {t : Token} {name : Text} (h : t.Names name) (k : Keyword) :
    ¬t.Spells k := by
  intro hk
  rcases h with rfl | ⟨rfl, hnone⟩
  · obtain ⟨w, hw, -⟩ := hk
    cases hw
  · exact hnone k hk

end Token

/-! ## Parts of a statement -/

namespace Grammar

/-- Names with commas between them. -/
inductive NameList : List Token → List Text → Prop
  | one {t name} : t.Names name → NameList [t] [name]
  | cons {t name ts names} : t.Names name → NameList ts names →
      NameList (t :: .comma :: ts) (name :: names)

/-- An item of a select list. A field without AS keeps its name. -/
inductive Item : List Token → SelectItem → Prop
  | all : Item [.star] .all
  | field {t name} : t.Names name → Item [t] (.field name name)
  | renamed {t as u : Token} {name column} : t.Names name → as.Spells .as → u.Names column →
      Item [t, as, u] (.field name column)

/-- Items with commas between them. -/
inductive ItemList : List Token → List SelectItem → Prop
  | one {ts item} : Item ts item → ItemList ts [item]
  | cons {ts item ts' items} : Item ts item → ItemList ts' items →
      ItemList (ts ++ .comma :: ts') (item :: items)

/-- A clause after the source. -/
inductive ClauseOf : List Token → Clause → Prop
  | ignored {t ts names} : t.Spells .ignore → NameList ts names →
      ClauseOf (t :: ts) (.ignored names)
  | keys {t ts names} : t.Spells .pk → NameList ts names → ClauseOf (t :: ts) (.keys names)
  | autoCreate {t} : t.Spells .autocreate → ClauseOf [t] .autoCreate
  | autoEvolve {t} : t.Spells .autoevolve → ClauseOf [t] .autoEvolve
  | capitalize {t} : t.Spells .capitalize → ClauseOf [t] .capitalize
  | capitalizeNames {t} : t.Spells .capitalizenames → ClauseOf [t] .capitalize

/-- Clauses one after the other. -/
inductive ClauseList : List Token → List Clause → Prop
  | nil : ClauseList [] []
  | cons {ts clause ts' clauses} : ClauseOf ts clause → ClauseList ts' clauses →
      ClauseList (ts ++ ts') (clause :: clauses)

/-! ## Statements -/

/-- What a statement holds, given the parts that it is spelled by. -/
structure Holds (s : Statement) (mode : Keyword) (target : Text) (items : List SelectItem)
    (source : Text) (clauses : List Clause) : Prop where
  mode : s.mode = mode.text
  target : s.target = target
  source : s.source = source
  selectsAll : s.selectsAll = true ↔ .all ∈ items
  fields : s.fields = items.filterMap SelectItem.field?
  keys : .keys s.keys ∈ clauses ∨ s.keys = [] ∧ ∀ names, .keys names ∉ clauses
  ignored : .ignored s.ignored ∈ clauses ∨ s.ignored = [] ∧ ∀ names, .ignored names ∉ clauses
  autoCreate : s.autoCreate = true ↔ .autoCreate ∈ clauses
  autoEvolve : s.autoEvolve = true ↔ .autoEvolve ∈ clauses
  capitalize : s.capitalize = true ↔ .capitalize ∈ clauses

/-- The tokens spell the statement. -/
inductive Derives : List Token → Statement → Prop
  | intro {verb into table select from' stream : Token} {itemTokens clauseTokens : List Token}
      {mode : Keyword} {target source : Text} {items : List SelectItem} {clauses : List Clause}
      {s : Statement} :
      mode = .insert ∨ mode = .upsert → verb.Spells mode → into.Spells .into →
      table.Names target → select.Spells .select →
      ItemList itemTokens items → items.count .all ≤ 1 →
      from'.Spells .from → stream.Names source →
      ClauseList clauseTokens clauses → (clauses.map Clause.kind).Nodup →
      Holds s mode target items source clauses →
      Derives (verb :: into :: table :: select ::
        (itemTokens ++ from' :: stream :: clauseTokens)) s

end Grammar

end TableSink
