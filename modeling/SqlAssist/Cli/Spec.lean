/-!
# Command-line grammar

The command line is described by parsers: a program name, an optional description, and
actions.  An action is an option (one or more option strings such as `-v` and
`--verbose`) or a positional argument, and either shows the help, sets a flag, stores a
value (converted to an integer where asked), or, for the command position, hands the
rest of the line to the sub-parser it names.

From the description come the usage line and the help text:

* the usage lists the options as `[-h]` or `[--opt METAVAR]`, then the positionals,
  the command as `{a,b} ...`; when it does not fit in 78 columns, the options and the
  positionals go on separate lines, aligned under the first option;
* the help text is the usage, the description, and the sections `positional arguments:`
  and `options:`, each item's help starting at a common column: two more than the widest
  item, but at most 24.  An item wider than its space puts its help on the next line.
  The help texts here are short enough to fit on one line.
-/

namespace SqlAssist.Cli

/-- What an action does with what it is given. -/
inductive Effect
  /-- Show the help and stop. -/
  | help
  /-- Set a flag; takes no value. -/
  | flag
  /-- Store one value, as an integer when `integer`. -/
  | store (integer : Bool)
  /-- Name a sub-command and hand it the rest of the line. -/
  | command (choices : List (String × String))
  deriving DecidableEq, Repr

/-- One action of a parser. -/
structure Action where
  /-- Its option strings; none for a positional argument. -/
  names : List String
  dest : String
  effect : Effect
  help : Option String := none
  required : Bool := false
  deriving DecidableEq, Repr

/-- A parser: its program name, description and actions. -/
structure Parser where
  prog : String
  description : Option String := none
  actions : List Action
  deriving DecidableEq, Repr

namespace Action

/-- Whether the action is an option. -/
def isOption (a : Action) : Bool := !a.names.isEmpty

/-- Whether the action takes no value. -/
def takesNone (a : Action) : Bool :=
  match a.effect with
  | .help | .flag => true
  | _ => false

/-- The placeholder of an action's value: the command's choices in braces, else the
destination in capitals. -/
def metavar (a : Action) : String :=
  match a.effect with
  | .command choices => "\x7b" ++ ",".intercalate (choices.map (·.1)) ++ "\x7d"
  | _ => if a.isOption then a.dest.toUpper else a.dest

/-- The name of an action in messages: its option strings joined by slashes, else its
placeholder or destination. -/
def displayName (a : Action) : String :=
  if a.isOption then "/".intercalate a.names
  else match a.effect with
    | .command _ => a.dest
    | _ => a.metavar

/-- The action's part of the usage line. -/
def usagePart (a : Action) : String :=
  if a.isOption then
    if a.takesNone then "[" ++ a.names.headD "" ++ "]"
    else "[" ++ a.names.headD "" ++ " " ++ a.metavar ++ "]"
  else match a.effect with
    | .command _ => a.metavar ++ " ..."
    | _ => a.metavar

/-- The action as its help item names it: each option string, with the placeholder after
those that take a value, or the placeholder of a positional. -/
def invocation (a : Action) : String :=
  if a.isOption then
    if a.takesNone then ", ".intercalate a.names
    else ", ".intercalate (a.names.map fun n => n ++ " " ++ a.metavar)
  else a.metavar

end Action

/-- The width help is laid out in. -/
def textWidth : Nat := 78

/-- Wrap usage parts into lines of `textWidth` columns, each line after the first
indented by `indent`; the first line starts after a prefix of `first` columns. -/
def wrapParts (parts : List String) (indent : Nat) (first : Option Nat) : List String :=
  let start := match first with | some f => f - 1 | none => indent - 1
  let (lines, line, _) := parts.foldl (fun (acc : List (List String) × List String × Nat) part =>
    let (lines, line, len) := acc
    if len + 1 + part.length > textWidth && !line.isEmpty then
      (lines ++ [line], [part], indent - 1 + part.length + 1)
    else (lines, line ++ [part], len + part.length + 1)) ([], [], start)
  let lines := if line.isEmpty then lines else lines ++ [line]
  let pad := String.ofList (List.replicate indent ' ')
  (List.range lines.length).zip lines |>.map fun (i, l) =>
    (if i = 0 && first.isSome then "" else pad) ++ " ".intercalate l

/-- The usage text of a parser, after `usage: `. -/
def Parser.usage (p : Parser) : String :=
  let opts := (p.actions.filter Action.isOption).map Action.usagePart
  let poss := (p.actions.filter fun a => !a.isOption).map Action.usagePart
  let whole := " ".intercalate (p.prog :: opts ++ poss)
  if "usage: ".length + whole.length ≤ textWidth then whole
  else
    let indent := "usage: ".length + p.prog.length + 1
    "\n".intercalate (wrapParts (p.prog :: opts) indent (some "usage: ".length) ++
      wrapParts poss indent none)

/-- The usage line as printed. -/
def Parser.usageLine (p : Parser) : String := "usage: " ++ p.usage ++ "\n"

/-- The help items of an action: its own, then its sub-commands one step further in. -/
def Action.items (a : Action) : List (Nat × String × Option String) :=
  (2, a.invocation, a.help) ::
    match a.effect with
    | .command choices => choices.map fun (c, h) => (4, c, some h)
    | _ => []

/-- One help item laid out with its help starting at column `column`. -/
def layoutItem (column : Nat) (item : Nat × String × Option String) : String :=
  let (indent, name, help) := item
  let pad := fun (n : Nat) => String.ofList (List.replicate n ' ')
  let width := column - indent - 2
  match help with
  | none => pad indent ++ name ++ "\n"
  | some h =>
    if name.length ≤ width then pad indent ++ name ++ pad (width - name.length + 2) ++ h ++ "\n"
    else pad indent ++ name ++ "\n" ++ pad column ++ h ++ "\n"

/-- The help text of a parser. -/
def Parser.helpText (p : Parser) : String :=
  let items := p.actions.flatMap Action.items
  let widest := items.foldl (fun m (i, n, _) => max m (i + n.length)) 0
  let column := min (widest + 2) 24
  let part := fun (title : String) (acts : List Action) =>
    if acts.isEmpty then ""
    else "\n" ++ title ++ ":\n" ++ String.join ((acts.flatMap Action.items).map (layoutItem column))
  p.usageLine ++
    (match p.description with | some d => "\n" ++ d ++ "\n" | none => "") ++
    part "positional arguments" (p.actions.filter fun a => !a.isOption) ++
    part "options" (p.actions.filter Action.isOption)

end SqlAssist.Cli
