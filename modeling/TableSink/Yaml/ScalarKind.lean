/-
What a plain scalar is by its looks.

Truth values and the null are a few words; numbers are written in base ten, or
with a mark for base two, eight or sixteen, with underscores anywhere among
their digits; dates are written year first. All else is text. The looks of a
text do not depend on a line break at its end.
-/
import TableSink.Value.Timestamp
import TableSink.Yaml.Version

namespace TableSink.Yaml

/-- What a scalar can stand for. `merge` and `equals` are for keys: the one
takes over the rows of other mappings, the other is a text. -/
inductive ScalarKind where
  | null
  | bool
  | int
  | float
  | time
  | binary
  | merge
  | equals
  | text
  deriving DecidableEq

namespace ScalarKind

/-! ## Words -/

/-- The words for truth values. -/
def truthWords : Version → List String
  | .v11 =>
    ["y", "Y", "yes", "Yes", "YES", "n", "N", "no", "No", "NO", "true", "True", "TRUE", "false",
      "False", "FALSE", "on", "On", "ON", "off", "Off", "OFF"]
  | .v12 => ["true", "True", "TRUE", "false", "False", "FALSE"]

/-- The words for the null, the empty text apart. -/
def nullWords : List String :=
  ["~", "null", "Null", "NULL"]

/-! ## Numbers -/

/-- The text without its sign. -/
def dropSign : List Char → List Char
  | '-' :: s => s
  | '+' :: s => s
  | s => s

/-- A text that is not empty and whose characters are all of a kind or
underscores. -/
def isRun (p : Char → Bool) (s : List Char) : Bool :=
  !s.isEmpty && s.all fun c => p c || c == '_'

/-- The digits of base sixteen. -/
def isHexDigit (c : Char) : Bool :=
  c.isDigit || ('a' ≤ c && c ≤ 'f') || ('A' ≤ c && c ≤ 'F')

/-- The digits of base eight. -/
def isOctalDigit (c : Char) : Bool :=
  '0' ≤ c && c ≤ '7'

/-- The digits of base two. -/
def isBinaryDigit (c : Char) : Bool :=
  c == '0' || c == '1'

/-- Parts of one or two digits in base sixty, each after a colon; the text after
them. There is at least one part. -/
def dropSixtieths : List Char → Option (List Char)
  | ':' :: a :: b :: s =>
    if '0' ≤ a ∧ a ≤ '5' ∧ b.isDigit then some ((dropSixtieths s).getD s)
    else if a.isDigit then some ((dropSixtieths (b :: s)).getD (b :: s))
    else none
  | [':', a] => if a.isDigit then some [] else none
  | _ => none

/-- Does the text without its sign look like an integer of the first version
that is written in base ten? -/
def looksOldDecimal (s : List Char) : Bool :=
  let digits := s.takeWhile fun c => c.isDigit || c == '_'
  match digits with
  | [] => false
  | first :: _ =>
    if '1' ≤ first ∧ first ≤ '9' then
      let rest := s.drop digits.length
      rest.isEmpty || dropSixtieths rest == some []
    else s == ['0']

/-- Does the text look like an integer? In the first version, base eight has a
zero for a mark. -/
def looksInt (version : Version) (s : List Char) : Bool :=
  match dropSign s, version with
  | '0' :: 'b' :: s, _ => isRun isBinaryDigit s
  | '0' :: 'x' :: s, _ => isRun isHexDigit s
  | '0' :: 'o' :: s, .v12 => isRun isOctalDigit s
  | s, .v12 => isRun Char.isDigit s
  | s, .v11 => isRun isOctalDigit s || looksOldDecimal s

/-- An exponent with its letter: its sign, which may be required, and its
digits. -/
def isExponent (signRequired : Bool) : List Char → Bool
  | [] => false
  | e :: s =>
    let unsigned := dropSign s
    (e == 'e' || e == 'E') && !unsigned.isEmpty && unsigned.all Char.isDigit
      && (!signRequired || unsigned.length < s.length)

/-- Digits and underscores are the parts of a number. -/
def isPart (c : Char) : Bool :=
  c.isDigit || c == '_'

/-- Does the text without its sign look like a number with a point or an
exponent? `leadingPoint` says whether it may start with the point. -/
def looksFraction (leadingPoint : Bool) (s : List Char) : Bool :=
  let whole := s.takeWhile isPart
  match s.dropWhile isPart with
  | '.' :: rest =>
    let digits := rest.takeWhile isPart
    let exponent := rest.dropWhile isPart
    if whole.isEmpty then
      leadingPoint && !digits.isEmpty && (exponent.isEmpty || isExponent true exponent)
    else (whole.headD '_').isDigit && (exponent.isEmpty || isExponent false exponent)
  | exponent => (whole.headD '_').isDigit && isExponent false exponent

/-- Does the text without its sign look like a number in base sixty with a
point? -/
def looksSixtieths (s : List Char) : Bool :=
  (s.headD '_').isDigit &&
    match dropSixtieths (s.dropWhile isPart) with
    | some ('.' :: rest) => rest.all isPart
    | _ => false

/-- Does the text look like a double? In the first version, no sign stands
before a point, and there are numbers in base sixty. -/
def looksFloat (version : Version) (s : List Char) : Bool :=
  let unsigned := dropSign s
  if s ∈ [".nan".toList, ".NaN".toList, ".NAN".toList] then true
  else if unsigned ∈ [".inf".toList, ".Inf".toList, ".INF".toList] then true
  else
    match version with
    | .v11 => looksFraction (unsigned.length == s.length) unsigned || looksSixtieths unsigned
    | .v12 => looksFraction true unsigned

/-! ## All kinds -/

/-- What a text is that is not empty. -/
def ofLooks (version : Version) (s : List Char) : ScalarKind :=
  let word := String.ofList s
  let first := s.headD 'x'
  if word ∈ truthWords version then .bool
  else if word ∈ nullWords then .null
  else if word = "<<" then .merge
  else if word = "=" then .equals
  else if looksFloat version s then .float
  else if (first.isDigit || first == '-' || first == '+') && looksInt version s then .int
  else if (Timestamp.read? s).isSome then .time
  else .text

/-- What a plain scalar is. -/
def ofPlain (version : Version) (text : Text) : ScalarKind :=
  if text = [] then .null else ofLooks version (Timestamp.dropBreak text.chars)

end ScalarKind

end TableSink.Yaml
