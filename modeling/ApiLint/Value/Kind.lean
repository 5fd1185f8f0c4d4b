import ApiLint.Value

/-!
# Kinds of values

The names by which messages call the kinds of values.
-/

namespace ApiLint

namespace Scalar

/-- The kind of a scalar. -/
def kind : Scalar → String
  | .null => "NoneType"
  | .bool _ => "bool"
  | .int _ => "int"
  | .float _ => "float"
  | .str _ => "str"
  | .bytes _ => "bytes"
  | .date _ => "date"
  | .time _ => "datetime"

end Scalar

/-- The kind of a key. -/
def Key.kind : Key → String
  | .scalar s => s.kind
  | .tuple _ => "tuple"

/-- The kind of a value. -/
def Value.kind : Value → String
  | .scalar s => s.kind
  | .list _ => "list"
  | .tuple _ => "tuple"
  | .set _ => "set"
  | .map _ => "dict"

end ApiLint
