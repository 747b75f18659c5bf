/-
Lines on a terminal.

Each kind of line has its colour and its mark. A line is opened by the codes
of its style and closed by the code that resets them.
-/
import TableSink.Text.Quoted

namespace TableSink.Console

open Text

/-- The character that opens a terminal code. -/
def escape : String := "\x1b"

/-- The kinds of lines. -/
inductive Style where
  | header
  | info
  | success
  | warning
  | error
  deriving DecidableEq

/-- What stands before the text of a line. -/
def Style.opening : Style → String
  | .header => escape ++ "[95m" ++ escape ++ "[1m"
  | .info => escape ++ "[96m"
  | .success => escape ++ "[92m✓ "
  | .warning => escape ++ "[93m⚠️  "
  | .error => escape ++ "[91m❌ "

/-- What stands after the text of a line. -/
def reset : String := escape ++ "[0m"

/-- A line with its style. -/
structure Line where
  style : Style
  text : Text
  deriving DecidableEq

/-- The line as it is sent to the terminal. -/
def Line.render (l : Line) : Text :=
  l.style.opening ++ l.text ++ reset ++ "\n"

/-- Lines as they are sent to the terminal. -/
def render (lines : List Line) : Text :=
  lines.flatMap Line.render

/-! ## Outputs -/

/-- What lines are sent to. It takes a line, or refuses it and says why. -/
abbrev Output := Line → Option Text

/-- Sends lines one after the other: those that are taken, up to the first that is
refused, and why it is. -/
def Output.send (out : Output) : List Line → List Line × Option Text
  | [] => ([], none)
  | line :: lines =>
    match out line with
    | some why => ([], some why)
    | none =>
      let (taken, refusal) := out.send lines
      (line :: taken, refusal)

/-- Why surrogates are refused that stand at a place of a line. -/
def unencodable (position : Nat) : Text → Text
  | [c] =>
    "'utf-8' codec can't encode character " ++ quote [c] ++ " in position " ++ toString position
      ++ ": surrogates not allowed"
  | cs =>
    "'utf-8' codec can't encode characters in position " ++ toString position ++ "-"
      ++ toString (position + cs.length - 1) ++ ": surrogates not allowed"

/-- An output in UTF-8, which has no bytes for surrogates. The first of them are
named, with those that follow at once. -/
def Output.utf8 : Output := fun line =>
  match (line.render.dropWhile (·.isChar)).takeWhile (!·.isChar) with
  | [] => none
  | cs => some (unencodable (line.render.takeWhile (·.isChar)).length cs)

/-! ## Text without codes -/

/-- The characters of the parameters of a terminal code. -/
def isParameter (c : Char) : Bool :=
  '0' ≤ c && c ≤ '?'

/-- The characters between the parameters of a terminal code and its end. -/
def isIntermediate (c : Char) : Bool :=
  ' ' ≤ c && c ≤ '/'

/-- The characters that end a terminal code. -/
def isFinal (c : Char) : Bool :=
  '@' ≤ c && c ≤ '~'

/-- What follows a terminal code of which the bracket was passed. -/
def afterCode? (s : Text) : Option Text :=
  match (s.dropWhile (·.is isParameter)).dropWhile (·.is isIntermediate) with
  | [] => none
  | c :: rest => if c.is isFinal then some rest else none

theorem length_of_afterCode? {s rest : Text} (h : afterCode? s = some rest) :
    rest.length < s.length := by
  have hp := (List.dropWhile_suffix (·.is isParameter) (l := s)).length_le
  have hi := (List.dropWhile_suffix (·.is isIntermediate)
    (l := s.dropWhile (·.is isParameter))).length_le
  simp only [afterCode?] at h
  split at h
  · simp at h
  · next c r he =>
    rw [he, List.length_cons] at hi
    split at h
    · simp only [Option.some.injEq] at h
      subst h
      omega
    · simp at h

/-- The text without terminal codes. A code is an escape, a bracket, parameters
and what ends them. -/
def plain (s : Text) : Text :=
  match s with
  | .char '\x1B' :: .char '[' :: s =>
    match _h : afterCode? s with
    | some rest => plain rest
    | none => .char '\x1B' :: plain (.char '[' :: s)
  | c :: s => c :: plain s
  | [] => []
termination_by s.length
decreasing_by
  all_goals simp_wf
  have := length_of_afterCode? _h
  omega

end TableSink.Console
