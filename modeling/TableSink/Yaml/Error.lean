/-
What can be wrong with a document.

The bytes of a document may be no text. A text is malformed where it or its
structure breaks a rule of the format. Apart from that, a scalar may be tagged
as something that its text is not, an impossible date for instance, and a key
may be something that no row can be found by.
-/
import TableSink.Text.Quoted
import TableSink.Value.Writable
import TableSink.Yaml.Reader

namespace TableSink.Yaml

/-- Why a text is not a document. -/
inductive Malformed where
  | unprintable
  | noToken (c : Char)
  | keyWithoutValue
  | entryNotAllowed
  | keyNotAllowed
  | valueNotAllowed
  | directive
  | name
  | tag
  | blockHeader
  | blockIndent
  | quoteNotClosed
  | markInQuote
  | escape
  | unexpected
  | noContent
  | documentStart
  | version
  | duplicateDirective
  | undefinedHandle
  | undefinedAlias (name : String)
  | severalDocuments
  | mergeValue
  | duplicateKey
  | collectionKey
  | unknownTag
  | kind
  | base64
  | tooDeep
  deriving DecidableEq

/-- What does not fit: the text of a scalar, a key, or a version. -/
inductive Unfit where
  | integer (base : Nat) (text : Text)
  | longInteger (digits : Nat)
  /-- An integer that is too long to be written in a message. -/
  | longText
  | float (text : Text)
  /-- A float in base sixty with so many parts that the first counts for more than
  any float. -/
  | sixtieths
  /-- A float with two exponents. -/
  | exponents
  | empty
  | truth (text : Text)
  | time (fault : DateTime.Fault)
  | codePoint
  | wideCodePoint
  | changeableKey (kind : String)
  | repeatedKey
  | version (major minor : Nat)
  /-- A version for which it is not said what scalars look like. -/
  | looks (major minor : Nat)
  deriving DecidableEq

namespace Unfit

/-- The longest quotation of a text that is no integer. -/
def quotationLimit : Nat := 200

/-- The wording of a value that does not fit. -/
def message : Unfit → Text
  | .integer base text =>
    "invalid literal for int() with base " ++ toString base ++ ": "
      ++ (Text.quote text).take quotationLimit
  | .longInteger digits =>
    "Exceeds the limit (4300 digits) for integer string conversion: value has "
      ++ toString digits ++ " digits; use sys.set_int_max_str_digits() to increase the limit"
  | .longText => longMessage
  | .float text => "could not convert string to float: " ++ Text.quote text
  | .sixtieths => "int too large to convert to float"
  | .exponents => "too many values to unpack (expected 2)"
  | .empty => "string index out of range"
  | .truth text => Text.quote text
  | .time fault => fault.message
  | .codePoint => "chr() arg not in range(0x110000)"
  | .wideCodePoint => "Python int too large to convert to C int"
  | .changeableKey kind => "unhashable type: '" ++ kind ++ "'"
  | .repeatedKey => ""
  | .version major minor =>
    "version minor part can only be 2 or 1, got " ++ numbers major minor
  | .looks major minor => numbers major minor
where
  /-- Two numbers in brackets. -/
  numbers (major minor : Nat) : Text :=
    "(" ++ Text.ofInt major ++ ", " ++ Text.ofInt minor ++ ")"

/-- The kind of mistake. -/
def mistake : Unfit → Mistake
  | .empty => .index
  | .truth _ | .looks _ _ => .lookup
  | .changeableKey _ => .type
  | .wideCodePoint | .sixtieths | .time .range => .overflow
  | .repeatedKey | .version _ _ => .assertion
  | _ => .value

/-- What does not fit, as a reader says it. -/
def slip (u : Unfit) : Slip := ⟨u.mistake, u.message⟩

end Unfit

/-- Why a document gives no value. -/
inductive Error where
  | undecodable (cause : Text.Utf8.DecodeError)
  | malformed (cause : Malformed)
  | unfit (cause : Unfit)
  deriving DecidableEq

/-- What is wrong with a document, as a reader says it. For a rule that is broken
there are no words. -/
def Error.fault : Error → Fault
  | .undecodable cause => .undecodable cause
  | .malformed _ => .malformed none
  | .unfit cause => .unfit cause.slip

end TableSink.Yaml
