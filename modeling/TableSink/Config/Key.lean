/-
The keys that a configuration is read by, and what holds where one is absent.
-/
import TableSink.Value.Text

namespace TableSink.Config

/-- What a configuration says about a sink. -/
inductive Key where
  | connection
  | user
  | password
  | mappings
  | errorPolicy
  | maxRetries
  | batchSize
  | retryDelay
  deriving DecidableEq

namespace Key

/-- All keys. -/
def all : List Key :=
  [.connection, .user, .password, .mappings, .errorPolicy, .maxRetries, .batchSize, .retryDelay]

/-- The key as it stands in a configuration. -/
def name : Key → String
  | .connection => "connect.jdbc.connection.uri"
  | .user => "connect.jdbc.connection.user"
  | .password => "connect.jdbc.connection.password"
  | .mappings => "connect.jdbc.sink.export.mappings"
  | .errorPolicy => "connect.jdbc.sink.error.policy"
  | .maxRetries => "connect.jdbc.sink.max.retries"
  | .batchSize => "connect.jdbc.sink.batch.size"
  | .retryDelay => "connect.jdbc.sink.retry.interval"

/-- The value that holds where the key is absent. -/
def default : Key → Value
  | .errorPolicy => .text "throw"
  | .maxRetries => .int 10
  | .batchSize => .int 3000
  | .retryDelay => .int 60000
  | .connection | .user | .password | .mappings => .null

end Key

end TableSink.Config
