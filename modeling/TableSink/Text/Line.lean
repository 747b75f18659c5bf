/-
Line ends.

A carriage return ends a line, alone or with the line feed after it; in text
that was taken in lines, each line ends with a line feed.
-/

namespace TableSink.Text

/-- The text with a line feed at the end of every line. -/
def normalizeLines : List Char → List Char
  | [] => []
  | '\r' :: '\n' :: s => '\n' :: normalizeLines s
  | '\r' :: s => '\n' :: normalizeLines s
  | c :: s => c :: normalizeLines s

end TableSink.Text
