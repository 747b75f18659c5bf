/-
The words of an export statement.

A statement is cut into bare words, names in backquotes, stars and commas,
with blanks between them. A bare word is a run of Latin letters, digits and
the four marks `_ . - $`; in backquotes every text is a name, save the empty
one and one that holds a backquote itself. Twelve bare words are keywords,
in capital or small letters; a word in backquotes never is one.

`Token.scan` reports the first position at which no token can start.
-/
import TableSink.Text.Blank

namespace TableSink

open Text

/-! ## Keywords -/

/-- The words that the statement language reserves. -/
inductive Keyword where
  | insert
  | upsert
  | into
  | select
  | from
  | as
  | ignore
  | pk
  | autocreate
  | autoevolve
  | capitalize
  | capitalizenames
  deriving DecidableEq

namespace Keyword

/-- All reserved words. -/
def all : List Keyword :=
  [.insert, .upsert, .into, .select, .from, .as, .ignore, .pk, .autocreate, .autoevolve,
    .capitalize, .capitalizenames]

/-- The keyword in capital letters. -/
def text : Keyword → String
  | .insert => "INSERT"
  | .upsert => "UPSERT"
  | .into => "INTO"
  | .select => "SELECT"
  | .from => "FROM"
  | .as => "AS"
  | .ignore => "IGNORE"
  | .pk => "PK"
  | .autocreate => "AUTOCREATE"
  | .autoevolve => "AUTOEVOLVE"
  | .capitalize => "CAPITALIZE"
  | .capitalizenames => "CAPITALIZENAMES"

/-- The keyword that a bare word spells. Bare words hold Latin letters only,
so the difference of capital and small is the one of the Latin alphabet. -/
def ofWord? (word : Text) : Option Keyword :=
  all.find? fun k => ofString k.text == word.map (·.map Char.toUpper)

/-- Every keyword is listed. -/
theorem mem_all (k : Keyword) : k ∈ all := by cases k <;> decide

end Keyword

/-! ## Tokens -/

/-- One word of a statement. -/
inductive Token where
  | word (text : Text)
  | quoted (name : Text)
  | star
  | comma
  deriving DecidableEq

namespace Token

/-- The text of the token, without backquotes. -/
def text : Token → Text
  | .word w => w
  | .quoted n => n
  | .star => "*"
  | .comma => ","

/-- Was the token written in backquotes? -/
def isQuoted : Token → Bool
  | .quoted _ => true
  | _ => false

/-- The keyword that a token is; only bare words are keywords. -/
def keyword? : Token → Option Keyword
  | .word w => Keyword.ofWord? w
  | _ => none

/-- The name that a token is: a text in backquotes, or a bare word that is not
a keyword. -/
def name? : Token → Option Text
  | .word w => if (Keyword.ofWord? w).isNone then some w else none
  | .quoted n => some n
  | .star => none
  | .comma => none

/-! ## Cutting a statement into tokens -/

/-- Why a statement cannot be cut into tokens, with the position in it,
counted in code points from zero. -/
inductive ScanError where
  | emptyName (pos : Nat)
  | unexpected (c : CodePoint) (pos : Nat)
  deriving DecidableEq

/-- The wording of a scan error. -/
def ScanError.message : ScanError → Text
  | .emptyName pos => "Empty quoted identifier at position " ++ toString pos
  | .unexpected c pos =>
    "Unexpected character '" ++ [c] ++ "' at position " ++ toString pos

/-- The backquote, which opens and closes a name. -/
def backquote : Char := '\x60'

/-- The characters of bare words. -/
def isWordChar (c : Char) : Bool :=
  c.isAlphanum || c == '_' || c == '.' || c == '-' || c == '$'

/-- The name up to the next backquote and what follows that backquote, or
`none` where no backquote follows. -/
def closeQuote? : Text → Option (Text × Text)
  | [] => none
  | c :: s =>
    if c = backquote then some ([], s)
    else (closeQuote? s).map fun (name, rest) => (c :: name, rest)

theorem length_of_closeQuote? {s name rest : Text} (h : closeQuote? s = some (name, rest)) :
    s.length = name.length + rest.length + 1 := by
  induction s generalizing name with
  | nil => simp [closeQuote?] at h
  | cons c s ih =>
    by_cases hc : c = backquote
    · obtain ⟨rfl, rfl⟩ : [] = name ∧ s = rest := by simpa [closeQuote?, hc] using h
      simp
    · obtain ⟨name', hs, rfl⟩ :
          ∃ name', closeQuote? s = some (name', rest) ∧ c :: name' = name := by
        simpa [closeQuote?, hc] using h
      simp [ih hs]
      omega

theorem length_dropWhile_le (p : CodePoint → Bool) (s : Text) :
    (s.dropWhile p).length ≤ s.length :=
  (List.dropWhile_sublist p).length_le

/-- The tokens of the text `s`, of which the first code point stands at position
`pos` of the statement. A bare word is as long as it can be. -/
def scanFrom (pos : Nat) (s : Text) : Except ScanError (List Token) :=
  match s with
  | [] => .ok []
  | c :: s =>
    if c.is isBlank then
      scanFrom (pos + 1) s
    else if c = '*' then
      (scanFrom (pos + 1) s).map (.star :: ·)
    else if c = ',' then
      (scanFrom (pos + 1) s).map (.comma :: ·)
    else if c = backquote then
      match h : closeQuote? s with
      | none => .error (.unexpected c pos)
      | some ([], _) => .error (.emptyName pos)
      | some (n :: name, rest) =>
        (scanFrom (pos + name.length + 3) rest).map (.quoted (n :: name) :: ·)
    else if c.is isWordChar then
      let word := c :: s.takeWhile (·.is isWordChar)
      (scanFrom (pos + word.length) (s.dropWhile (·.is isWordChar))).map (.word word :: ·)
    else
      .error (.unexpected c pos)
termination_by s.length
decreasing_by
  all_goals simp_wf
  · have := length_of_closeQuote? h; omega
  · have := length_dropWhile_le (·.is isWordChar) s; omega

/-- The tokens of a statement, or the first position where none can start. -/
def scan (statement : Text) : Except ScanError (List Token) :=
  scanFrom 0 statement

end Token

end TableSink
