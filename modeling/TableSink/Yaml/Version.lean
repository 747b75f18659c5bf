/-
The two versions of the format.

A document is of the second version unless it says otherwise. In the first
version there are more words for truth values, a leading zero marks base eight,
numbers may have parts with colons between them, and a question mark or a colon
between brackets is a mark wherever it stands.
-/

namespace TableSink.Yaml

/-- A version of the format. -/
inductive Version where
  | v11
  | v12
  deriving DecidableEq

/-- The version that a document declares, by its two numbers. -/
structure Declared where
  major : Nat
  minor : Nat
  deriving DecidableEq

namespace Declared

/-- The numbers of the first version. -/
def first : Declared := ⟨1, 1⟩

/-- The numbers of the second version, which holds unless another is declared. -/
def usual : Declared := ⟨1, 2⟩

/-- The version of two numbers, if there is one. -/
def version? (d : Declared) : Option Version :=
  if d = first then some .v11 else if d = usual then some .v12 else none

/-- Does the declared version come after the first one? -/
def isLater (d : Declared) : Bool :=
  1 < d.major || (d.major == 1 && 1 < d.minor)

end Declared

end TableSink.Yaml
