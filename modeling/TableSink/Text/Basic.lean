/-
Texts.

A text is a list of code points. Most code points are characters; the others
are surrogates, two of which stand for one character where texts are kept in
units of sixteen bits. A document may name surrogates by their numbers. They
are no characters here, also where two that belong together stand side by side,
so a text is more than a string.
-/

namespace TableSink

/-! ## Code points -/

/-- A code point: a character, or the surrogate of a number. -/
inductive CodePoint where
  | char (c : Char)
  | surrogate (n : Fin 0x800)
  deriving DecidableEq

namespace CodePoint

instance : Coe Char CodePoint := ⟨char⟩

/-- The number of the first surrogate. -/
def firstSurrogate : Nat := 0xD800

/-- The number of a code point. -/
def toNat : CodePoint → Nat
  | .char c => c.toNat
  | .surrogate n => firstSurrogate + n

/-- Code points are told apart by their numbers. -/
instance : Hashable CodePoint := ⟨fun c => hash c.toNat⟩

/-- The code point of a number that is not too large. -/
def ofNat (n : Nat) : CodePoint :=
  if h : n - firstSurrogate < 0x800 ∧ firstSurrogate ≤ n then
    .surrogate ⟨n - firstSurrogate, h.1⟩
  else .char (Char.ofNat n)

/-- Is the code point a character? -/
def isChar : CodePoint → Bool
  | .char _ => true
  | .surrogate _ => false

/-- Is the code point a character of a kind? -/
def is (p : Char → Bool) : CodePoint → Bool
  | .char c => p c
  | .surrogate _ => false

/-- The code point with another character in the place of its own. -/
def map (f : Char → Char) : CodePoint → CodePoint
  | .char c => .char (f c)
  | .surrogate n => .surrogate n

/-- The character that is shown for a code point: itself, or the mark for what
cannot be shown. -/
def shown : CodePoint → Char
  | .char c => c
  | .surrogate _ => '\uFFFD'

end CodePoint

/-! ## Texts -/

/-- A text. -/
abbrev Text := List CodePoint

namespace Text

/-- The text of characters. -/
def ofChars (s : List Char) : Text :=
  s.map .char

/-- The text of a string. -/
def ofString (s : String) : Text :=
  ofChars s.toList

instance : Coe String Text := ⟨ofString⟩

/-- A number in base ten. -/
def ofInt (n : Int) : Text :=
  ofString (toString n)

/-- The characters that are shown for a text. What is read by its characters can
be read from them: the mark for what cannot be shown is no letter, no digit and
no blank. -/
def chars (s : Text) : List Char :=
  s.map CodePoint.shown

/-- The string that is shown for a text. -/
def display (s : Text) : String :=
  String.ofList s.chars

/-- Does a text come before another, or are they the same? The first code points
in which they differ decide. -/
def le : Text → Text → Bool
  | [], _ => true
  | _ :: _, [] => false
  | a :: s, b :: t => if a.toNat = b.toNat then le s t else decide (a.toNat < b.toNat)

/-- The texts in ascending order. -/
def sort (texts : List Text) : List Text :=
  texts.mergeSort le

/-- The characters of a text of characters are its own. -/
theorem chars_ofChars (s : List Char) : (ofChars s).chars = s := by
  have h : CodePoint.shown ∘ CodePoint.char = id := rfl
  rw [chars, ofChars, List.map_map, h, List.map_id]

end Text

end TableSink
