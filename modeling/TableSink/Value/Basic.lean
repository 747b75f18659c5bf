/-
Data values: what a configuration holds and what a document describes.
-/
import TableSink.Value.Date

namespace TableSink

/-- The kinds of collections. -/
inductive Shape where
  | list
  | map
  | orderedMap
  | set
  deriving DecidableEq

/-- A piece of data. The rows of a map keep the order in which their keys came
first. A tuple is a list that serves as a key, or a pair. Where a collection
holds itself, `inside` stands for what would go on without end. -/
inductive Value where
  | null
  | bool (b : Bool)
  | int (n : Int)
  | float (x : Float)
  | text (s : Text)
  | list (items : List Value)
  | tuple (items : List Value)
  | map (rows : List (Value × Value))
  | orderedMap (rows : List (Value × Value))
  | set (members : List Value)
  | inside (shape : Shape)
  | date (d : Date)
  | dateTime (t : DateTime)
  | bytes (data : List UInt8)

/-- The name of a kind of collection. -/
def Shape.name : Shape → String
  | .list => "list"
  | .map => "dict"
  | .orderedMap => "ordereddict"
  | .set => "set"

namespace Value

/-- The name of the kind of a value. -/
def kindName : Value → String
  | .null => "NoneType"
  | .bool _ => "bool"
  | .int _ => "int"
  | .float _ => "float"
  | .text _ => "str"
  | .list _ => Shape.name .list
  | .tuple _ => "tuple"
  | .map _ => Shape.name .map
  | .orderedMap _ => Shape.name .orderedMap
  | .set _ => Shape.name .set
  | .inside shape => shape.name
  | .date _ => "date"
  | .dateTime _ => "datetime"
  | .bytes _ => "bytes"

end Value

end TableSink
