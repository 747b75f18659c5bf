/-
Several statements in one text.

Statements are separated by semicolons. Semicolons at the end of the text add
nothing; every other piece counts, an empty or a blank one too, so that it can
be reported.
-/
import TableSink.Statement.Parser

namespace TableSink.Statement

/-- The statements of a text: the pieces between separators, without the empty
ones at the end. -/
def segments (text : Text) : List Text :=
  ((text.splitOn (.char separator)).reverse.dropWhile List.isEmpty).reverse

end TableSink.Statement
