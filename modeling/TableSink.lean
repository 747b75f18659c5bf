import TableSink.CommandLine.Run
import TableSink.Config.Loader
import TableSink.Main
import TableSink.Proofs.CommandLine.Check
import TableSink.Proofs.CommandLine.Describe
import TableSink.Proofs.Config.File
import TableSink.Proofs.Config.Integer
import TableSink.Proofs.Mapping.Access
import TableSink.Proofs.Mapping.Marks
import TableSink.Proofs.Mapping.Reordering
import TableSink.Proofs.Mapping.Violation
import TableSink.Proofs.Settings.Aggregation
import TableSink.Proofs.Settings.Password
import TableSink.Proofs.Settings.Views
import TableSink.Proofs.Settings.WellFormed
import TableSink.Proofs.Statement.Alike
import TableSink.Proofs.Statement.Rearrangement
import TableSink.Proofs.Statement.ScanError
import TableSink.Proofs.Yaml.Integer
