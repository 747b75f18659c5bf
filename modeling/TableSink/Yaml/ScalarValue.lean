/-
The values of scalars.

A scalar that is tagged as something has the value that its text spells. The
text need not look like what the tag says, so there is more that can be wrong
with it than with a plain scalar.
-/
import TableSink.Text.Base64
import TableSink.Text.LowerCase
import TableSink.Yaml.Error
import TableSink.Yaml.ScalarKind

namespace TableSink.Yaml.ScalarKind

open Number Text

/-! ## Truth values -/

/-- The words that a truth value may be tagged on, in small letters. -/
def taggedTruthWords : List (String × Bool) :=
  [("yes", true), ("no", false), ("y", true), ("n", false), ("true", true), ("false", false),
    ("on", true), ("off", false)]

/-- The truth value of a text. -/
def truthValue (text : Text) : Except Unfit Bool :=
  let word := lower text
  match taggedTruthWords.lookup word.display with
  | some b => .ok b
  | none => .error (.truth word)

/-! ## Integers -/

/-- The text without underscores. -/
def dropUnderscores (s : Text) : Text :=
  s.filter (· ≠ .char '_')

/-- Whether the text begins with a minus sign, and what follows its sign, if it
has one. -/
def takeSign : Text → Bool × Text
  | .char '-' :: s => (true, s)
  | .char '+' :: s => (false, s)
  | s => (false, s)

/-- The integer that a text spells in a base. -/
def integerIn (base : Nat) (s : Text) : Except Unfit Int :=
  (readInteger base s.chars).mapError fun
    | .malformed => .integer base s
    | .tooLong digits => .longInteger digits

/-- The number of parts in base sixty, the last one first. -/
def ofSixtieths {α : Type} [Add α] [Mul α] (zero : α) (ofNat : Nat → α) (parts : List α) : α :=
  (parts.foldl (fun (sum, unit) part => (sum + part * ofNat unit, unit * 60)) (zero, 1)).1

/-- The integer of a text without its sign. -/
def unsignedInteger (version : Version) (s : Text) : Except Unfit Int :=
  match s, version with
  | .char '0' :: .char 'b' :: s, _ => integerIn 2 s
  | .char '0' :: .char 'x' :: s, _ => integerIn 16 s
  | .char '0' :: .char 'o' :: s, _ => integerIn 8 s
  | s, .v12 => integerIn 10 s
  | [], .v11 => .error .empty
  | .char '0' :: s, .v11 => integerIn 8 (.char '0' :: s)
  | s, .v11 =>
    ((s.splitOn (.char ':')).mapM (integerIn 10)).map fun parts =>
      ofSixtieths 0 (fun n => (n : Int)) parts.reverse

/-- The integer of a text. -/
def integerValue (version : Version) (text : Text) : Except Unfit Int :=
  match dropUnderscores text with
  | [] => .error .empty
  | s =>
    let (negative, s) := takeSign s
    (unsignedInteger version s).map fun n => if negative then -n else n

/-! ## Doubles -/

/-- The text of a double in small letters, with what its sign says. -/
def signedDouble (text : Text) : Bool × Text :=
  takeSign (lower (dropUnderscores text))

/-- Is the text the word for no number, rather than a number that cannot be
told? -/
def isNanWord (text : Text) : Bool :=
  (signedDouble text).2 == ofString ".nan"

/-- The double that a part of a text spells. -/
def doubleOf (s : Text) : Except Unfit Float :=
  match readFloat? s.chars with
  | some x => .ok x
  | none => .error (.float s)

/-- The double of parts in base sixty, the first one first. What the first part
counts for has to be the worth of a double. -/
def sixtiethsOf (parts : List Float) : Except Unfit Float :=
  let worth (n : Nat) : Float := nearest false n 1
  if (worth (Nat.pow 60 (parts.length - 1))).isInf then .error .sixtieths
  else .ok (ofSixtieths (worth 0) worth parts.reverse)

/-- The double of a text without its sign. -/
def unsignedDouble (version : Version) (s : Text) : Except Unfit Float :=
  if s = ".inf" then .ok (infinite false)
  else if s = ".nan" then .ok notANumber
  else
    match version with
    | .v12 => doubleOf s
    | .v11 =>
      if .char ':' ∈ s then ((s.splitOn (.char ':')).mapM doubleOf).bind sixtiethsOf
      else if 1 < s.count (.char 'e') then .error .exponents
      else doubleOf s

/-- The double of a text. -/
def doubleValue (version : Version) (text : Text) : Except Unfit Float :=
  if (dropUnderscores text).isEmpty then .error .empty
  else
    let (negative, s) := signedDouble text
    (unsignedDouble version s).map fun x => if negative then -x else x

/-! ## All kinds -/

/-- The bytes of a text. -/
def bytesValue (text : Text) : Except Malformed (List UInt8) :=
  if text.any (0x7F < ·.toNat) then .error .base64
  else
    match Base64.decode? text.chars with
    | some data => .ok data
    | none => .error .base64

/-- The value of a scalar of a kind. A merge key and an equals sign have none of
their own. -/
def value (kind : ScalarKind) (version : Version) (text : Text) : Except Error Value :=
  match kind with
  | .null => .ok .null
  | .bool => ((truthValue text).map .bool).mapError .unfit
  | .int => ((integerValue version text).map .int).mapError .unfit
  | .float => ((doubleValue version text).map .float).mapError .unfit
  | .time =>
    match Timestamp.readTagged? text.chars with
    | some t => t.value.mapError fun fault => .unfit (.time fault)
    | none => .error (.malformed .kind)
  | .binary => ((bytesValue text).map .bytes).mapError .malformed
  | .merge | .equals => .error (.malformed .unknownTag)
  | .text => .ok (.text text)

end TableSink.Yaml.ScalarKind
