/-!
# Document values

The dynamic values that configuration documents, editor request parameters and scripted
schema replies are made of: the values of a JSON document, together with the date and
time values of a TOML document.  Objects keep their fields in document order, since that
order is meaningful (it orders databases, tables and columns).
-/

namespace SqlAssist

/-- A value of a configuration or request document. -/
inductive Value where
  /-- The absent value. -/
  | null
  | bool (b : Bool)
  | int (i : Int)
  | float (x : Float)
  | str (s : String)
  | list (items : List Value)
  /-- An object, its fields in document order. -/
  | obj (fields : List (String × Value))
  /-- A date, a time or a date and time, kept as written. -/
  | dateTime (text : String)
  deriving Inhabited

namespace Value

/-- The value of the first field named `k` of an object; `none` for a missing field or a
value that is not an object. -/
def field? (v : Value) (k : String) : Option Value :=
  match v with
  | .obj fs => fs.lookup k
  | _ => none

/-- Whether a value counts as false where a condition reads it: the absent value, false,
zero, and empty texts, lists and objects. -/
def isFalsy : Value → Bool
  | .null => true
  | .bool b => !b
  | .int i => i == 0
  | .float x => x == 0
  | .str s => s.isEmpty
  | .list xs => xs.isEmpty
  | .obj fs => fs.isEmpty
  | .dateTime _ => false

/-- The integer a value stands for where integers are expected: integers, and the truth
values as 1 and 0. -/
def asInt? : Value → Option Int
  | .int i => some i
  | .bool b => some (if b then 1 else 0)
  | _ => none

/-- The name of a value's kind, as messages about it print it. -/
def kindName : Value → String
  | .null => "NoneType"
  | .bool _ => "bool"
  | .int _ => "int"
  | .float _ => "float"
  | .str _ => "str"
  | .list _ => "list"
  | .obj _ => "dict"
  | .dateTime _ => "datetime"

end Value

end SqlAssist
