import SqlAssist.Value.Display

/-!
# Misusing a value

An operation that a value's kind does not support fails, and the failure is reported as
the error it raises, by the error's class name and message:

* reading an attribute the kind lacks: `AttributeError`, `'int' object has no attribute
  'lower'`;
* using a list or an object as a key: `TypeError`, `unhashable type: 'list'`;
* going through a value that has no items: `TypeError`, `'int' object is not iterable`;
* indexing a value that has no positions: `TypeError`, `'int' object is not
  subscriptable`;
* indexing past the end of a text or a list: `IndexError`, `string index out of range`
  or `list index out of range`;
* looking up a key that an object lacks: `KeyError`, the key in its quoted form;
* bounding a slice by a value that is not an integer: `TypeError`, `slice indices must
  be integers or None or have an __index__ method`.
-/

namespace SqlAssist

/-- An operation that a value's kind does not support. -/
inductive Misuse
  /-- A value of kind `kind` lacks the attribute `member`. -/
  | noAttribute (kind member : String)
  /-- A value of kind `kind` used as a key. -/
  | unhashable (kind : String)
  /-- A value of kind `kind` gone through item by item. -/
  | notIterable (kind : String)
  /-- A value of kind `kind` indexed. -/
  | notSubscriptable (kind : String)
  /-- An index past the end of a `container`: a `string` or a `list`. -/
  | outOfRange (container : String)
  /-- A key that an object lacks. -/
  | missingKey (key : Value)
  /-- A slice bounded by a value that is not an integer. -/
  | sliceBound

namespace Misuse

/-- The class name of the error a misuse raises. -/
def kind : Misuse → String
  | .noAttribute .. => "AttributeError"
  | .unhashable _ | .notIterable _ | .notSubscriptable _ | .sliceBound => "TypeError"
  | .outOfRange _ => "IndexError"
  | .missingKey _ => "KeyError"

/-- The message of the error a misuse raises. -/
def message : Misuse → String
  | .noAttribute k a => "'" ++ k ++ "' object has no attribute '" ++ a ++ "'"
  | .unhashable k => "unhashable type: '" ++ k ++ "'"
  | .notIterable k => "'" ++ k ++ "' object is not iterable"
  | .notSubscriptable k => "'" ++ k ++ "' object is not subscriptable"
  | .outOfRange c => c ++ " index out of range"
  | .missingKey k => k.quoted
  | .sliceBound => "slice indices must be integers or None or have an __index__ method"

end Misuse

end SqlAssist
