import SqlAssist.Value.Misuse
import SqlAssist.Text.Case

/-!
# Values as names and keys

A scripted schema source may name databases, tables and columns by any value, so names
are values, and what a reader does with a name follows the rules of dynamic values.

* Two values are the *same* when they are equal: texts of the same characters, the
  absent value with itself, numbers of equal value whether integers, floats or truth
  values (so `0`, `0.0` and `false` are the same), and lists and objects item by item.
* Lists and objects cannot be keys (`checkKey`).
* A key map (`KeyMap`) holds one entry per key, up to sameness: an entry keeps the key as
  first put and the value last put, in the order keys were first put.
* Only a text can be lowercased; a value of any other kind lacks `lower`.
* Going through a value item by item (`items`) gives the items of a list, the characters
  of a text, and the keys of an object; other kinds have no items.
* Indexing (`index`) gives the character of a text or the item of a list at a position;
  an object has only text keys, so it lacks every position; other kinds cannot be
  indexed.
-/

namespace SqlAssist

namespace Value

/-- The number a value counts as in comparisons: integers, floats, and the truth values
as `1` and `0`. -/
def number? : Value → Option (Int ⊕ Float)
  | .int i => some (.inl i)
  | .bool b => some (.inl (if b then 1 else 0))
  | .float x => some (.inr x)
  | _ => none

/-- Whether two numbers are equal in value. -/
def sameNumber : Int ⊕ Float → Int ⊕ Float → Bool
  | .inl a, .inl b => a == b
  | .inr x, .inr y => x == y
  | .inl a, .inr x => Float.ofInt a == x
  | .inr x, .inl a => Float.ofInt a == x

mutual

/-- Whether two values are equal. -/
def same : Value → Value → Bool
  | .str a, .str b => a == b
  | .null, .null => true
  | .dateTime a, .dateTime b => a == b
  | .list xs, .list ys => sameItems xs ys
  | .obj fs, .obj gs => sameFields fs gs
  | a, b =>
    match a.number?, b.number? with
    | some x, some y => sameNumber x y
    | _, _ => false

/-- Whether two lists hold the same items. -/
def sameItems : List Value → List Value → Bool
  | [], [] => true
  | x :: xs, y :: ys => same x y && sameItems xs ys
  | _, _ => false

/-- Whether two objects hold the same fields, in order. -/
def sameFields : List (String × Value) → List (String × Value) → Bool
  | [], [] => true
  | (k, x) :: fs, (l, y) :: gs => k == l && same x y && sameFields fs gs
  | _, _ => false

end

/-- Check that a value can be a key: lists and objects cannot. -/
def checkKey : Value → Except Misuse Unit
  | .list _ => .error (.unhashable "list")
  | .obj _ => .error (.unhashable "dict")
  | _ => .ok ()

/-- The lowercase of a text; a value of another kind lacks `lower`. -/
def lowered : Value → Except Misuse String
  | .str s => .ok (Text.lowerString s)
  | v => .error (.noAttribute v.kindName "lower")

/-- The text of a name about to be lowercased; a name of another kind lacks `lower`. -/
def asText : Value → Except Misuse String
  | .str s => .ok s
  | v => .error (.noAttribute v.kindName "lower")

/-- The distinct values of a list, up to sameness, in order of first occurrence. -/
def distinct : List Value → List Value
  | [] => []
  | x :: xs => x :: (distinct xs).filter fun y => !same y x

/-- The items of a value: of a list, its items; of a text, its characters; of an object,
its keys.  Other kinds have no items. -/
def items : Value → Except Misuse (List Value)
  | .list xs => .ok xs
  | .str s => .ok (s.toList.map fun c => .str (String.singleton c))
  | .obj fs => .ok (fs.map fun f => .str f.1)
  | v => .error (.notIterable v.kindName)

/-- The item of a value at position `i`: the character of a text or the item of a list.
An object's keys are texts, so it lacks the key `i`; other kinds cannot be indexed. -/
def index (v : Value) (i : Nat) : Except Misuse Value :=
  match v with
  | .str s =>
    match s.toList[i]? with
    | some c => .ok (.str (String.singleton c))
    | none => .error (.outOfRange "string")
  | .list xs =>
    match xs[i]? with
    | some x => .ok x
    | none => .error (.outOfRange "list")
  | .obj _ => .error (.missingKey (.int i))
  | _ => .error (.notSubscriptable v.kindName)

end Value

/-- Keys that compare by sameness: single values, and pairs of values compared part by
part. -/
class SameKey (κ : Type) where
  same : κ → κ → Bool

instance : SameKey Value := ⟨Value.same⟩

instance : SameKey (Value × Value) := ⟨fun a b => Value.same a.1 b.1 && Value.same a.2 b.2⟩

/-- A map keyed by values: one entry per key up to sameness, in the order keys were first
put. -/
abbrev KeyMap (κ α : Type) := List (κ × α)

namespace KeyMap

variable {κ α : Type} [SameKey κ]

/-- The value of a key. -/
def get? (m : KeyMap κ α) (k : κ) : Option α :=
  (m.find? fun e => SameKey.same e.1 k).map (·.2)

/-- Put a value under a key: an entry of the same key keeps its key and takes the value;
otherwise a new entry goes at the end. -/
def put (m : KeyMap κ α) (k : κ) (v : α) : KeyMap κ α :=
  if m.any (fun e => SameKey.same e.1 k) then
    m.map fun e => if SameKey.same e.1 k then (e.1, v) else e
  else m ++ [(k, v)]

end KeyMap

end SqlAssist
