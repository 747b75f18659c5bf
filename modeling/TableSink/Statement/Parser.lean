/-
Reading a statement.

`Statement.parse` cuts a text into tokens and reads them from left to right.
Every step takes the tokens that are left and answers what it read with the
tokens after it, or the first token that cannot stand where it stands. No step
looks further than the token it is about to read.
-/
import TableSink.Statement.Basic
import TableSink.Statement.Token

namespace TableSink

open Text

/-! ## Causes of failure -/

/-- What a statement has to go on with. -/
inductive Expected where
  | keyword (choices : List Keyword)
  | table
  | source
  | field
  | column
  | ignoredField
  | keyField
  deriving DecidableEq

/-- The wording of an expectation. -/
def Expected.text : Expected → Text
  | .keyword choices => (ofString " or ").intercalate (choices.map fun k => k.text)
  | .table => "table name"
  | .source => "source name"
  | .field => "field name"
  | .column => "alias"
  | .ignoredField => "ignored field name"
  | .keyField => "primary key field"

/-- Why a text is not a statement. -/
inductive ParseError where
  | separator
  | blank
  | scan (cause : Token.ScanError)
  | ended (expected : Expected)
  | found (expected : Expected) (token : Token)
  | starTwice
  | duplicate (clause : Keyword)
  deriving DecidableEq

/-- The wording of the reason. -/
def ParseError.reason : ParseError → Text
  | .separator => "A statement cannot contain the ';' separator"
  | .blank => "Empty mapping statement"
  | .scan cause => cause.message
  | .ended expected => "Unexpected end of statement, expected " ++ expected.text
  | .found expected token =>
    "Expected " ++ expected.text ++ " but found '" ++ token.text ++ "'"
  | .starTwice => "'*' selected more than once"
  | .duplicate clause => "Duplicate " ++ clause.text ++ " clause"

namespace Statement

/-- A step over the tokens that are left. -/
abbrev Step (α : Type) := List Token → Except ParseError (α × List Token)

/-! ## Single tokens -/

/-- Reads one of the given keywords. -/
def readKeyword (choices : List Keyword) : Step Keyword
  | [] => .error (.ended (.keyword choices))
  | t :: ts =>
    match t.keyword? with
    | some k => if k ∈ choices then .ok (k, ts) else .error (.found (.keyword choices) t)
    | none => .error (.found (.keyword choices) t)

/-- Reads a name. -/
def readName (expected : Expected) : Step Text
  | [] => .error (.ended expected)
  | t :: ts =>
    match t.name? with
    | some name => .ok (name, ts)
    | none => .error (.found expected t)

/-! ## Lists of names -/

/-- Reads names with commas between them. -/
def readNames (expected : Expected) : Step (List Text)
  | [] => .error (.ended expected)
  | t :: .comma :: ts =>
    match t.name? with
    | some name => (readNames expected ts).map fun (names, rest) => (name :: names, rest)
    | none => .error (.found expected t)
  | t :: ts =>
    match t.name? with
    | some name => .ok ([name], ts)
    | none => .error (.found expected t)

/-! ## Select lists -/

/-- Is the token the bare word AS? -/
def isAs (t : Token) : Bool :=
  t.keyword? = some .as

/-- Reads a field and, after AS, its name in the table; without AS the field
keeps its name. -/
def readField : Step SelectItem
  | [] => .error (.ended .field)
  | t :: ts =>
    match t.name? with
    | none => .error (.found .field t)
    | some name =>
      match ts with
      | [] => .ok (.field name name, [])
      | a :: ts' =>
        if isAs a then (readName .column ts').map fun (column, rest) => (.field name column, rest)
        else .ok (.field name name, ts)

/-- Reads an item. The star is refused where it was selected before. -/
def readItem (starred : Bool) : Step SelectItem
  | .star :: ts => if starred then .error .starTwice else .ok (.all, ts)
  | ts => readField ts

theorem readName_length {expected : Expected} {ts rest : List Token} {name : Text}
    (h : readName expected ts = .ok (name, rest)) : rest.length < ts.length := by
  cases ts with
  | nil => simp [readName] at h
  | cons t ts =>
    simp only [readName] at h
    split at h
    · simp only [Except.ok.injEq, Prod.mk.injEq] at h
      simp [← h.2]
    · simp at h

theorem readField_length {ts rest : List Token} {item : SelectItem}
    (h : readField ts = .ok (item, rest)) : rest.length < ts.length := by
  cases ts with
  | nil => simp [readField] at h
  | cons t ts =>
    simp only [readField] at h
    split at h
    · simp at h
    · split at h
      · simp only [Except.ok.injEq, Prod.mk.injEq] at h
        simp [← h.2]
      · split at h
        · rename_i a ts' _
          cases hn : readName .column ts' with
          | error e => simp [hn, Except.map] at h
          | ok p =>
            have := readName_length hn
            simp only [hn, Except.map, Except.ok.injEq, Prod.mk.injEq] at h
            simp only [← h.2, List.length_cons]
            omega
        · simp only [Except.ok.injEq, Prod.mk.injEq] at h
          simp [← h.2]

theorem readItem_length {starred : Bool} {ts rest : List Token} {item : SelectItem}
    (h : readItem starred ts = .ok (item, rest)) : rest.length < ts.length := by
  unfold readItem at h
  split at h
  · split at h
    · simp at h
    · simp only [Except.ok.injEq, Prod.mk.injEq] at h
      simp [← h.2]
  · exact readField_length h

/-- Reads items with commas between them, with at most one star. -/
def readItems (starred : Bool) (ts : List Token) :
    Except ParseError (List SelectItem × List Token) :=
  match _h : readItem starred ts with
  | .error e => .error e
  | .ok (item, .comma :: rest) =>
    (readItems (starred || item.isAll) rest).map fun (items, rest) => (item :: items, rest)
  | .ok (item, rest) => .ok ([item], rest)
termination_by ts.length
decreasing_by
  have := readItem_length _h
  simp only [List.length_cons] at this
  omega

/-! ## Clauses -/

/-- The kind of the clause that a keyword opens. CAPITALIZENAMES is another
word for CAPITALIZE. -/
def clauseKind? : Keyword → Option ClauseKind
  | .ignore => some .ignored
  | .pk => some .keys
  | .autocreate => some .autoCreate
  | .autoevolve => some .autoEvolve
  | .capitalize => some .capitalize
  | .capitalizenames => some .capitalize
  | _ => none

/-- The keywords that open a clause. -/
def clauseKeywords : List Keyword :=
  [.ignore, .pk, .autocreate, .autoevolve, .capitalize, .capitalizenames]

/-- Reads what follows the keyword of a clause. -/
def readClauseBody : ClauseKind → Step Clause
  | .ignored, ts => (readNames .ignoredField ts).map fun (names, rest) => (.ignored names, rest)
  | .keys, ts => (readNames .keyField ts).map fun (names, rest) => (.keys names, rest)
  | .autoCreate, ts => .ok (.autoCreate, ts)
  | .autoEvolve, ts => .ok (.autoEvolve, ts)
  | .capitalize, ts => .ok (.capitalize, ts)

theorem readNames_length {expected : Expected} {ts rest : List Token} {names : List Text}
    (h : readNames expected ts = .ok (names, rest)) : rest.length < ts.length := by
  fun_induction readNames expected ts generalizing names rest with
  | case1 => simp at h
  | case2 t ts name hn ih =>
    cases hr : readNames expected ts with
    | error e => simp [hr, Except.map] at h
    | ok p =>
      have := ih hr
      simp only [hr, Except.map, Except.ok.injEq, Prod.mk.injEq] at h
      simp only [← h.2, List.length_cons]
      omega
  | case3 => simp at h
  | case4 t ts hc name hn =>
    simp only [Except.ok.injEq, Prod.mk.injEq] at h
    simp [← h.2]
  | case5 => simp at h

theorem readClauseBody_length {kind : ClauseKind} {ts rest : List Token} {clause : Clause}
    (h : readClauseBody kind ts = .ok (clause, rest)) : rest.length ≤ ts.length := by
  cases kind with
  | ignored =>
    cases hr : readNames .ignoredField ts with
    | error e => simp [readClauseBody, hr, Except.map] at h
    | ok p =>
      have := readNames_length hr
      simp only [readClauseBody, hr, Except.map, Except.ok.injEq, Prod.mk.injEq] at h
      simp only [← h.2]
      omega
  | keys =>
    cases hr : readNames .keyField ts with
    | error e => simp [readClauseBody, hr, Except.map] at h
    | ok p =>
      have := readNames_length hr
      simp only [readClauseBody, hr, Except.map, Except.ok.injEq, Prod.mk.injEq] at h
      simp only [← h.2]
      omega
  | autoCreate | autoEvolve | capitalize =>
    simp only [readClauseBody, Except.ok.injEq, Prod.mk.injEq] at h
    simp [← h.2]

/-- Reads clauses to the end, none of a kind that was read before. -/
def readClauses (seen : List ClauseKind) : List Token → Except ParseError (List Clause)
  | [] => .ok []
  | t :: ts =>
    match t.keyword?.bind fun k => (clauseKind? k).map (k, ·) with
    | none => .error (.found (.keyword clauseKeywords) t)
    | some (k, kind) =>
      if kind ∈ seen then .error (.duplicate k)
      else
        match _h : readClauseBody kind ts with
        | .error e => .error e
        | .ok (clause, rest) => (readClauses (kind :: seen) rest).map (clause :: ·)
termination_by ts => ts.length
decreasing_by
  have := readClauseBody_length _h
  simp only [List.length_cons]
  omega

/-! ## Whole statements -/

/-- The statement that the tokens spell. -/
def ofTokens (ts : List Token) : Except ParseError Statement := do
  let (mode, ts) ← readKeyword [.insert, .upsert] ts
  let (_, ts) ← readKeyword [.into] ts
  let (target, ts) ← readName .table ts
  let (_, ts) ← readKeyword [.select] ts
  let (items, ts) ← readItems false ts
  let (_, ts) ← readKeyword [.from] ts
  let (source, ts) ← readName .source ts
  let clauses ← readClauses [] ts
  pure (ofParts mode.text target items source clauses)

/-- The character that stands between statements, and so never in one. -/
def separator : Char := ';'

/-- The statement that a text spells. -/
def parse (text : Text) : Except ParseError Statement :=
  if .char separator ∈ text then .error .separator
  else if isBlankText text then .error .blank
  else
    match Token.scan text with
    | .error cause => .error (.scan cause)
    | .ok ts => ofTokens ts

end Statement

end TableSink
