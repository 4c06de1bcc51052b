import SqlAssist.Text.Case
import SqlAssist.Value

/-!
# Completion items and their ranking

A candidate name matches the word typed so far when, both lowercased in full, the name
starts with the word (priority 0) or contains it (priority 1).  `build` collects each
matching candidate with its priority and its position among the candidates, sorts the
collection by the two and keeps the items; so every prefix match comes before every other
match, each group in candidate order (`itemsAt` lists one group).  The priority is written
into the item's sort text as `0_name` or `1_name`.  Several built batches merge by `rank`,
which orders items by the priority in their sort text and keeps the batch order within a
priority.
-/

namespace SqlAssist.Completion

/-- What an item completes, with the editor protocol's kind numbers. -/
inductive Kind
  | column
  | table
  | database
  | keyword
  deriving DecidableEq, Repr

/-- The editor protocol's number for a kind: field, class, module and keyword. -/
def Kind.code : Kind → Nat
  | .column => 5
  | .table => 7
  | .database => 9
  | .keyword => 14

/-- The kind with an editor protocol number, if it is one of the four. -/
def Kind.ofCode? : Int → Option Kind
  | 5 => some .column
  | 7 => some .table
  | 9 => some .database
  | 14 => some .keyword
  | _ => none

/-- One completion candidate as the editor receives it.  The detail is text, except that a
column offered with no table shows its type exactly as the schema gave it. -/
structure Item where
  label : String
  kind : Kind
  detail : Value
  documentation : String
  insertText : String
  sortText : String
  filterText : String

/-- The editor protocol's object for an item. -/
def Item.toValue (i : Item) : Value :=
  .obj [("label", .str i.label), ("kind", .int i.kind.code), ("detail", i.detail),
    ("documentation", .str i.documentation), ("insertText", .str i.insertText),
    ("sortText", .str i.sortText), ("filterText", .str i.filterText)]

/-- Whether `needle` occurs as a contiguous run inside `hay`. -/
def occursIn (needle : List Char) : List Char → Bool
  | [] => needle.isEmpty
  | c :: rest => needle.isPrefixOf (c :: rest) || occursIn needle rest

/-- The priority of a candidate name for the typed word: 0 when the lowercase name starts
with the lowercase word, 1 when it contains it elsewhere, `none` when it does not match. -/
def priority (name typed : String) : Option Nat :=
  let needle := Text.lower typed.toList
  let hay := Text.lower name.toList
  if needle.isPrefixOf hay then some 0
  else if occursIn needle hay then some 1
  else none

/-- The item for a matching candidate. -/
def makeItem (kind : Kind) (detail : String → Value) (documentation : String → String)
    (name : String) (p : Nat) : Item :=
  ⟨name, kind, detail name, documentation name, name, toString p ++ "_" ++ name, name⟩

/-- The items of the candidates with priority `p`, in candidate order. -/
def itemsAt (kind : Kind) (detail : String → Value) (documentation : String → String)
    (typed : String) (p : Nat) (names : List String) : List Item :=
  names.filterMap fun n =>
    if priority n typed = some p then some (makeItem kind detail documentation n p) else none

/-- A matching candidate as `build` collects it: its priority, its position among the
candidates, and its item. -/
structure Decorated where
  priority : Nat
  index : Nat
  item : Item

/-- The matching candidates of `names`, the first of which stands at position `index`, each
with its priority and position, in candidate order. -/
def decorate (kind : Kind) (detail : String → Value) (documentation : String → String)
    (typed : String) : Nat → List String → List Decorated
  | _, [] => []
  | index, name :: rest =>
    match priority name typed with
    | some p =>
      ⟨p, index, makeItem kind detail documentation name p⟩ ::
        decorate kind detail documentation typed (index + 1) rest
    | none => decorate kind detail documentation typed (index + 1) rest

/-- The order of the sort key of a collected candidate: its priority, then its position. -/
def Decorated.keyLe (a b : Decorated) : Bool :=
  a.priority < b.priority || (a.priority == b.priority && a.index ≤ b.index)

/-- Filter candidates by the typed word and rank prefix matches first: each matching
candidate is collected with its priority and its position, the collection is sorted by
the two, and the items are kept in that order. -/
def build (kind : Kind) (names : List String) (typed : String)
    (detail : String → Value) (documentation : String → String) : List Item :=
  ((decorate kind detail documentation typed 0 names).mergeSort Decorated.keyLe).map (·.item)

/-- The priority written in an item's sort text: the text before its first `_`. -/
def Item.rankKey (i : Item) : String :=
  String.ofList (i.sortText.toList.takeWhile (· ≠ '_'))

/-- Merge batches of items: stable order by the priority in their sort text. -/
def rank (items : List Item) : List Item :=
  items.mergeSort fun a b => decide (a.rankKey ≤ b.rankKey)

end SqlAssist.Completion
